import Lox.Cursor.Pull

namespace Lox

namespace Recorder

variable {α β : Type}

/-- A recorder does what goes on without it, and its records are told by what comes of that. -/
def Follows (recorder : Recorder α) (plain : Except Cursor.Fault α)
    (events : α → List Log.Event) : Prop :=
  ∀ log, recorder log = plain.map fun outcome => (outcome, log ++ events outcome)

variable {events : α → List Log.Event}

theorem Follows.eq_ok {recorder : Recorder α} {plain : Except Cursor.Fault α}
    (follows : Follows recorder plain events) (found : recorder log = .ok (outcome, log')) :
    plain = .ok outcome ∧ log' = log ++ events outcome := by
  rw [follows log] at found
  cases plain with
  | error fault => cases found
  | ok outcome' =>
    obtain ⟨rfl, rfl⟩ := Prod.mk.inj (Except.ok.inj found)
    exact ⟨rfl, rfl⟩

private theorem follows_pure {outcome : α} (silent : events outcome = []) :
    Follows (pure outcome) (.ok outcome) events := by
  intro log
  rw [Except.map, silent, List.append_nil]
  rfl

private theorem follows_record {outcome : α} (recorded : events outcome = [event]) :
    Follows (do record event; return outcome) (do Cursor.silent event; return outcome) events := by
  intro log
  change _ = Except.ok (outcome, log ++ events outcome)
  rw [recorded]
  rfl

/-- Reading leaves no record. -/
private theorem follows_read {read : Except Cursor.Fault α}
    (silent : ∀ outcome, read = .ok outcome → events outcome = []) :
    Follows (liftM read) (liftM read) events := by
  intro log
  cases read with
  | error fault => rfl
  | ok outcome =>
    change _ = Except.ok (outcome, log ++ events outcome)
    rw [silent outcome rfl, List.append_nil]
    rfl

private theorem follows_bind {read : Except Cursor.Fault β} {next : β → Recorder α}
    {plain : β → Except Cursor.Fault α}
    (follows : ∀ found, Follows (next found) (plain found) events) :
    Follows (liftM read >>= next) (liftM read >>= plain) events := by
  intro log
  cases read with
  | error fault => rfl
  | ok found => exact follows found log

private theorem follows_ite {condition : Prop} [Decidable condition] {first second : Recorder α}
    {plain plain' : Except Cursor.Fault α} (holds : Follows first plain events)
    (fails : Follows second plain' events) :
    Follows (if condition then first else second) (if condition then plain else plain') events := by
  split
  · exact holds
  · exact fails

end Recorder

open Recorder (record Follows follows_pure follows_record follows_read follows_bind follows_ite)

namespace Cursor

/-- The records that a motion leaves: one of the result, if it delivers one. -/
def Motion.events : Motion → List Log.Event
  | .goesOn _ _ => []
  | .delivers result _ => result.toList.map Log.Event.ofResult

section Following

variable (bytes : List UInt8)

private theorem token_follows (kind : TokenKind) (literal : Literal) (cursor : Cursor) :
    Follows (token record bytes kind literal cursor) (token silent bytes kind literal cursor)
      Motion.events :=
  follows_bind fun _ => follows_record rfl

private theorem fail_follows (cause : LexicalError.Cause) (cursor : Cursor) :
    Follows (fail record cause cursor) (fail silent cause cursor) Motion.events :=
  follows_record rfl

private theorem number_follows (cursor : Cursor) :
    Follows (number record bytes cursor) (number silent bytes cursor) Motion.events := by
  apply follows_bind
  intro text
  apply follows_ite
  · apply token_follows
  · apply fail_follows

private theorem word_follows (cursor : Cursor) :
    Follows (word record bytes cursor) (word silent bytes cursor) Motion.events := by
  apply follows_bind
  intro text
  cases TokenKind.keyword? (String.ofList text) with
  | some keyword => apply token_follows
  | none => apply token_follows

private theorem stray_follows (c : Char) (cursor : Cursor) :
    Follows (stray record bytes c cursor) (stray silent bytes c cursor) Motion.events := by
  apply follows_bind
  intro text
  apply fail_follows

private theorem slash_follows (cursor : Cursor) :
    Follows (slash record bytes cursor) (slash silent bytes cursor) Motion.events := by
  apply follows_bind
  intro matched
  cases matched with
  | some cursor' => exact follows_pure rfl
  | none =>
    apply follows_bind
    intro matched
    cases matched with
    | some cursor' => exact follows_pure rfl
    | none => apply token_follows

private theorem pass_follows (point : Point) (cursor : Cursor) :
    Follows (liftM (pass bytes point cursor)) (liftM (pass bytes point cursor)) Motion.events := by
  apply follows_read
  intro motion passed
  obtain ⟨_, -, same⟩ := bind_eq_ok.mp passed
  rw [← Except.ok.inj same]
  rfl

private theorem passCounting_follows (point : Point) (cursor : Cursor) :
    Follows (liftM (passCounting bytes point cursor)) (liftM (passCounting bytes point cursor))
      Motion.events := by
  apply follows_read
  intro motion passed
  obtain ⟨_, -, passed⟩ := bind_eq_ok.mp passed
  obtain ⟨_, -, same⟩ := bind_eq_ok.mp passed
  rw [← Except.ok.inj same]
  rfl

private theorem dispatch_follows (c : Char) (cursor : Cursor) :
    Follows (dispatch record bytes c cursor) (dispatch silent bytes c cursor) Motion.events := by
  apply follows_ite
  · apply follows_bind
    intro cursor'
    exact follows_pure rfl
  · cases loneMark? c with
    | some kind => apply token_follows
    | none =>
      cases extensibleMark? c with
      | some kinds =>
        apply follows_bind
        intro matched
        cases matched with
        | some cursor' => apply token_follows
        | none => apply token_follows
      | none =>
        apply follows_ite
        · apply slash_follows
        · apply follows_ite
          · exact follows_pure rfl
          · apply follows_ite
            · exact follows_pure rfl
            · apply follows_ite
              · exact follows_pure rfl
              · apply stray_follows

theorem recordStep_follows (point : Point) (cursor : Cursor) :
    Follows (recordStep bytes point cursor) (step bytes point cursor) Motion.events := by
  cases point with
  | head =>
    apply follows_ite
    · exact follows_pure rfl
    · apply follows_bind
      intro read
      exact follows_pure rfl
  | dispatch c => apply dispatch_follows
  | lineComment =>
    apply follows_bind
    intro c
    apply follows_ite
    · apply pass_follows
    · exact follows_pure rfl
  | blockComment =>
    apply follows_bind
    intro c
    apply follows_bind
    intro d
    apply follows_ite
    · exact follows_pure rfl
    · apply follows_ite
      · apply fail_follows
      · apply passCounting_follows
  | string =>
    apply follows_bind
    intro c
    apply follows_ite
    · apply passCounting_follows
    · apply follows_ite
      · apply fail_follows
      · apply follows_bind
        intro read
        apply follows_bind
        intro text
        apply token_follows
  | whole =>
    apply follows_bind
    intro c
    apply follows_bind
    intro d
    apply follows_ite
    · apply pass_follows
    · apply follows_ite
      · apply pass_follows
      · apply number_follows
  | decimals =>
    apply follows_bind
    intro c
    apply follows_ite
    · apply pass_follows
    · apply number_follows
  | word =>
    apply follows_bind
    intro c
    apply follows_ite
    · apply pass_follows
    · apply word_follows

end Following

/-- Go on to the end of the pull, with the records made so far. -/
def recordRun (bytes : List UInt8) (point : Point) (cursor : Cursor) (log : List Log.Event) :
    Except Fault ((Option Result × Cursor) × List Log.Event) :=
  match _ : recordStep bytes point cursor log with
  | .ok (.goesOn point' cursor', log') => recordRun bytes point' cursor' log'
  | .ok (.delivers result cursor', log') => .ok ((result, cursor'), log')
  | .error fault => .error fault
termination_by distance bytes point cursor
decreasing_by
  -- A step that records comes as much nearer as the step that it follows.
  rename_i found
  exact step_nears ((recordStep_follows bytes point cursor).eq_ok found).1

def recordPull (bytes : List UInt8) (cursor : Cursor) : Recorder (Option Result × Cursor) :=
  recordRun bytes .head cursor

/-- What comes about while a consumer pulls up to so many results, in order: records, and results as
soon as the consumer has them. -/
def consume (bytes : List UInt8) (cursor : Cursor) :
    Nat → Except Fault (List (Log.Event ⊕ Result) × Cursor)
  | 0 => .ok ([], cursor)
  | wanted + 1 => do
    let ((result, cursor'), log) ← recordPull bytes cursor []
    match result with
    | none => return (log.map .inl, cursor')
    | some result =>
      let (later, last) ← consume bytes cursor' wanted
      return (log.map .inl ++ .inr result :: later, last)

end Cursor

end Lox
