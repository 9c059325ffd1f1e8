import Lox.Cursor

namespace Lox.Cursor

section Progress

variable {bytes : List UInt8} {cursor cursor' : Cursor} {motion : Motion}

theorem bind_eq_ok {α β : Type} {read : Except Fault α} {next : α → Except Fault β} {b : β} :
    (read >>= next) = .ok b ↔ ∃ a, read = .ok a ∧ next a = .ok b := by
  cases read with
  | ok a => exact ⟨fun found => ⟨a, rfl, found⟩, fun ⟨_, same, found⟩ => Except.ok.inj same ▸ found⟩
  | error fault => exact ⟨nofun, fun ⟨_, same, _⟩ => nomatch same⟩

private theorem nextChar_eq_ok (found : nextChar bytes cursor = .ok (c, cursor')) :
    cursor.current < bytes.length ∧ cursor' = { cursor with current := cursor.current + 1 } := by
  obtain ⟨d, here, same⟩ := bind_eq_ok.mp found
  obtain ⟨rfl, rfl⟩ := Prod.mk.inj (Except.ok.inj same)
  rw [charAt] at here
  split at here
  · rename_i byte known
    exact ⟨(List.getElem?_eq_some_iff.mp known).1, rfl⟩
  · cases here

private theorem countLine_eq_ok (found : countLine c cursor = .ok cursor') :
    cursor'.current = cursor.current := by
  rw [countLine] at found
  split at found
  · split at found
    · rw [← Except.ok.inj found]
    · cases found
  · rw [← Except.ok.inj found]

private theorem matchNext_eq_ok (found : matchNext bytes c cursor = .ok (some cursor')) :
    cursor'.current = cursor.current + 1 := by
  rw [matchNext] at found
  split at found
  · cases found
  · obtain ⟨d, -, same⟩ := bind_eq_ok.mp found
    have taken := Except.ok.inj same
    split at taken
    · rw [← Option.some.inj taken]
    · cases taken

/-- The longest way there is to the end of the pull. -/
def Point.rank : Point → Nat
  | .head => 0
  | .dispatch _ => 2
  | _ => 1

def distance (bytes : List UInt8) (point : Point) (cursor : Cursor) : Nat :=
  3 * (bytes.length - cursor.current) + point.rank

/-- A motion that leaves the pull unfinished leaves less to do. -/
def Motion.Nears (bytes : List UInt8) (far : Nat) : Motion → Prop
  | .goesOn point cursor => distance bytes point cursor < far
  | .delivers _ _ => True

theorem Motion.Nears.mono (nears : motion.Nears bytes near) (le : near ≤ far) :
    motion.Nears bytes far := by
  cases motion with
  | goesOn point cursor => exact Nat.lt_of_lt_of_le nears le
  | delivers result cursor => trivial

/-- Whatever a cursor does behind a character, it has come nearer by that character. -/
private theorem distance_lt_of_nextChar (read : nextChar bytes cursor = .ok (c, cursor'))
    (point : Point) : distance bytes point cursor' < 3 * (bytes.length - cursor.current) := by
  obtain ⟨inside, rfl⟩ := nextChar_eq_ok read
  have rank : point.rank ≤ 2 := by cases point <;> simp [Point.rank]
  simp only [distance]
  omega

private theorem pass_nears (found : pass bytes point cursor = .ok motion) :
    motion.Nears bytes (3 * (bytes.length - cursor.current)) := by
  obtain ⟨⟨c, cursor'⟩, read, same⟩ := bind_eq_ok.mp found
  rw [← Except.ok.inj same]
  exact distance_lt_of_nextChar read point

private theorem passCounting_nears (found : passCounting bytes point cursor = .ok motion) :
    motion.Nears bytes (3 * (bytes.length - cursor.current)) := by
  obtain ⟨⟨c, cursor'⟩, read, found⟩ := bind_eq_ok.mp found
  obtain ⟨cursor'', counted, same⟩ := bind_eq_ok.mp found
  have near := distance_lt_of_nextChar read point
  rw [← Except.ok.inj same]
  rwa [Motion.Nears, distance, countLine_eq_ok counted]

private theorem token_nears (found : token silent bytes kind literal cursor = .ok motion)
    (far : Nat) : motion.Nears bytes far := by
  obtain ⟨text, -, same⟩ := bind_eq_ok.mp found
  rw [← Except.ok.inj same]
  trivial

private theorem number_nears (found : number silent bytes cursor = .ok motion) (far : Nat) :
    motion.Nears bytes far := by
  obtain ⟨text, -, found⟩ := bind_eq_ok.mp found
  split at found
  · exact token_nears found far
  · rw [← Except.ok.inj found]
    trivial

private theorem word_nears (found : word silent bytes cursor = .ok motion) (far : Nat) :
    motion.Nears bytes far := by
  obtain ⟨text, -, found⟩ := bind_eq_ok.mp found
  split at found
  · exact token_nears found far
  · exact token_nears found far

private theorem stray_nears (found : stray silent bytes c cursor = .ok motion) (far : Nat) :
    motion.Nears bytes far := by
  obtain ⟨text, -, same⟩ := bind_eq_ok.mp found
  rw [← Except.ok.inj same]
  trivial

private theorem slash_nears (found : slash silent bytes cursor = .ok motion) :
    motion.Nears bytes (3 * (bytes.length - cursor.current) + 2) := by
  obtain ⟨matched, first, found⟩ := bind_eq_ok.mp found
  cases matched with
  | some cursor' =>
    have moved := matchNext_eq_ok first
    rw [← Except.ok.inj found]
    simp only [Motion.Nears, distance, Point.rank, moved]
    omega
  | none =>
    obtain ⟨matched, second, found⟩ := bind_eq_ok.mp found
    cases matched with
    | some cursor' =>
      have moved := matchNext_eq_ok second
      rw [← Except.ok.inj found]
      simp only [Motion.Nears, distance, Point.rank, moved]
      omega
    | none => exact token_nears found _

private theorem dispatch_nears (found : dispatch silent bytes c cursor = .ok motion) :
    motion.Nears bytes (3 * (bytes.length - cursor.current) + 2) := by
  rw [dispatch] at found
  split at found
  · obtain ⟨cursor', counted, same⟩ := bind_eq_ok.mp found
    rw [← Except.ok.inj same]
    simp only [Motion.Nears, distance, Point.rank, countLine_eq_ok counted]
    omega
  · split at found
    · exact token_nears found _
    · split at found
      · obtain ⟨matched, -, found⟩ := bind_eq_ok.mp found
        cases matched with
        | some cursor' => exact token_nears found _
        | none => exact token_nears found _
      · split at found
        · exact slash_nears found
        · split at found
          · rw [← Except.ok.inj found]
            exact Nat.lt_succ_self _
          · split at found
            · rw [← Except.ok.inj found]
              exact Nat.lt_succ_self _
            · split at found
              · rw [← Except.ok.inj found]
                exact Nat.lt_succ_self _
              · exact stray_nears found _

theorem step_nears (found : step bytes point cursor = .ok motion) :
    motion.Nears bytes (distance bytes point cursor) := by
  have loop {motion : Motion} (nears : motion.Nears bytes (3 * (bytes.length - cursor.current)))
      (point : Point) : motion.Nears bytes (distance bytes point cursor) :=
    nears.mono (Nat.le_add_right _ _)
  cases point with
  | head =>
    rw [step, move] at found
    split at found
    · rw [← Except.ok.inj found]
      trivial
    · obtain ⟨⟨c, cursor'⟩, read, same⟩ := bind_eq_ok.mp found
      rw [← Except.ok.inj same]
      exact distance_lt_of_nextChar read _
  | dispatch c => exact dispatch_nears found
  | lineComment =>
    obtain ⟨c, -, found⟩ := bind_eq_ok.mp found
    split at found
    · exact loop (pass_nears found) _
    · rw [← Except.ok.inj found]
      exact Nat.lt_succ_self _
  | blockComment =>
    obtain ⟨c, -, found⟩ := bind_eq_ok.mp found
    obtain ⟨d, -, found⟩ := bind_eq_ok.mp found
    split at found
    · rw [← Except.ok.inj found]
      simp only [Motion.Nears, distance, Point.rank]
      omega
    · split at found
      · rw [← Except.ok.inj found]
        trivial
      · exact loop (passCounting_nears found) _
  | string =>
    obtain ⟨c, -, found⟩ := bind_eq_ok.mp found
    split at found
    · exact loop (passCounting_nears found) _
    · split at found
      · rw [← Except.ok.inj found]
        trivial
      · obtain ⟨_, -, found⟩ := bind_eq_ok.mp found
        obtain ⟨_, -, found⟩ := bind_eq_ok.mp found
        exact token_nears found _
  | whole =>
    obtain ⟨c, -, found⟩ := bind_eq_ok.mp found
    obtain ⟨d, -, found⟩ := bind_eq_ok.mp found
    split at found
    · exact loop (pass_nears found) _
    · split at found
      · exact loop (pass_nears found) _
      · exact number_nears found _
  | decimals =>
    obtain ⟨c, -, found⟩ := bind_eq_ok.mp found
    split at found
    · exact loop (pass_nears found) _
    · exact number_nears found _
  | word =>
    obtain ⟨c, -, found⟩ := bind_eq_ok.mp found
    split at found
    · exact loop (pass_nears found) _
    · exact word_nears found _

end Progress

/-- Go on to the end of the pull. -/
def run (bytes : List UInt8) (point : Point) (cursor : Cursor) :
    Except Fault (Option Result × Cursor) :=
  match _ : step bytes point cursor with
  | .ok (.goesOn point' cursor') => run bytes point' cursor'
  | .ok (.delivers result cursor') => .ok (result, cursor')
  | .error fault => .error fault
termination_by distance bytes point cursor
decreasing_by
  rename_i found
  exact step_nears found

def pull (bytes : List UInt8) (cursor : Cursor) : Except Fault (Option Result × Cursor) :=
  run bytes .head cursor

/-- The cursor after some pulls. -/
def after (bytes : List UInt8) (cursor : Cursor) : Nat → Except Fault Cursor
  | 0 => .ok cursor
  | pulls + 1 => do
    let (_, cursor) ← pull bytes cursor
    after bytes cursor pulls

/-- The states that a cursor comes to while it is pulled, however often. A pull starts where the
one before has left the cursor. -/
inductive Reached (bytes : List UInt8) : Point → Cursor → Prop where
  | initial : Reached bytes .head initial
  | goesOn (reached : Reached bytes point cursor)
      (found : step bytes point cursor = .ok (.goesOn point' cursor')) :
      Reached bytes point' cursor'
  | pulled (reached : Reached bytes point cursor)
      (found : step bytes point cursor = .ok (.delivers result cursor')) :
      Reached bytes .head cursor'

/-- What a cursor delivers that is pulled until it has nothing more. -/
inductive Drains (bytes : List UInt8) : Cursor → List Result → Prop where
  | ended (pulled : pull bytes cursor = .ok (none, cursor')) : Drains bytes cursor []
  | delivers (pulled : pull bytes cursor = .ok (some result, cursor'))
      (drains : Drains bytes cursor' results) : Drains bytes cursor (result :: results)

end Lox.Cursor
