import Lox.Proofs.Moved

namespace Lox

open Segment (joined Begins)

namespace Scanner

private theorem advance_advance (scanner : Scanner) (text rest text' rest' : List Char) :
    (scanner.advance text rest).advance text' rest' = scanner.advance (text ++ text') rest' := by
  simp [advance, List.count_append, UInt32.ofNat_add, UInt32.add_assoc, Nat.add_assoc]

/-- What one pull does: it passes over blanks and comments and delivers the unit behind them. Where
there is none, it has passed over the whole text. -/
private theorem next_cases (scanner : Scanner) :
    (scanner.next = (none, scanner.spent) ∧ ∀ unit ∈ segments scanner.rest, unit.IsTrivia) ∨
      ∃ passed unit rest result, (∀ other ∈ passed, Segment.IsTrivia other) ∧
        unit.Begins rest ∧ segments scanner.rest = passed ++ unit :: segments rest ∧
        Delivers unit (scanner.offset + Utf8.size (joined passed))
          (scanner.line + feeds (joined (passed ++ [unit]))) result ∧
        scanner.next = (some result, scanner.advance (joined (passed ++ [unit])) rest) := by
  fun_induction next scanner with
  | case1 offset line => exact .inl ⟨by simp [spent, advance], by simp [segments_nil]⟩
  | case2 first rest offset line cutting scanner' result found =>
    obtain ⟨same, begins⟩ := Segment.split_spec first rest
    refine .inr ⟨[], cutting.1, cutting.2, result, by simp, begins, ?_, ?_, ?_⟩
    · rw [same]
      exact segments_begins begins
    · have delivers := begins.isUnit.result?_eq_some_iff.mp found
      simpa [scanner', advance, feeds] using delivers
    · simp [scanner']
  | case3 first rest offset line cutting scanner' nothing ih =>
    obtain ⟨same, begins⟩ := Segment.split_spec first rest
    have trivia : cutting.1.IsTrivia := (begins.isUnit.isTrivia_iff _ _).mpr nothing
    have cut : segments (first :: rest) = cutting.1 :: segments cutting.2 := by
      rw [same]
      exact segments_begins begins
    rcases ih with ⟨nothing', each⟩ |
      ⟨passed, unit, behind, result, each, begins', later, delivers, pulled⟩
    · refine .inl ⟨?_, ?_⟩
      · have onTheWay : scanner'.spent = Scanner.spent ⟨first :: rest, offset, line⟩ :=
          spent_advance _ _ _ same
        rw [nothing', onTheWay]
      · rw [cut]
        exact List.forall_mem_cons.mpr ⟨trivia, each⟩
    · refine .inr ⟨cutting.1 :: passed, unit, behind, result,
        List.forall_mem_cons.mpr ⟨trivia, each⟩, begins', ?_, ?_, ?_⟩
      · exact cut.trans (congrArg (cutting.1 :: ·) later)
      · simpa [scanner', advance, feeds, List.count_append, UInt32.ofNat_add, UInt32.add_assoc,
          Nat.add_assoc] using delivers
      · rw [pulled, advance_advance]
        rfl

/-- The scanner after some pulls, those that deliver nothing counted too. -/
def after (scanner : Scanner) : Nat → Scanner
  | 0 => scanner
  | pulls + 1 => scanner.next.2.after pulls

/-- The scanner stands in a text behind `before`. -/
structure StandsBehind (scanner : Scanner) (text before : List Char) : Prop where
  whole : text = before ++ scanner.rest
  offset : scanner.offset = Utf8.size before
  line : scanner.line = 1 + feeds before

theorem standsBehind_ofSource (source : String) : (ofSource source).StandsBehind source.toList [] :=
  ⟨rfl, rfl, rfl⟩

theorem StandsBehind.advance {scanner : Scanner} {read ahead : List Char}
    (stands : scanner.StandsBehind text before) (same : scanner.rest = read ++ ahead) :
    (scanner.advance read ahead).StandsBehind text (before ++ read) where
  whole := by rw [stands.whole, same, List.append_assoc]; rfl
  offset := by rw [Utf8.size_append, ← stands.offset]; rfl
  line := by rw [feeds_append, ← UInt32.add_assoc, ← stands.line]; rfl

/-- A pull that delivers a result leaves the scanner right behind the unit that it comes from. -/
theorem StandsBehind.next_some {scanner : Scanner} (stands : scanner.StandsBehind text before)
    (pulled : scanner.next.1 = some result) :
    ∃ passed unit, Begins unit scanner.next.2.rest ∧
      Delivers unit (Utf8.size (before ++ passed)) scanner.next.2.line result ∧
      scanner.next.2.StandsBehind text (before ++ passed ++ unit.text) := by
  rcases scanner.next_cases with ⟨nothing, -⟩ |
    ⟨passed, unit, ahead, other, -, begins, cut, delivers, next⟩
  · rw [nothing] at pulled
    cases pulled
  · rw [next] at pulled ⊢
    obtain rfl : other = result := Option.some.inj pulled
    have same : scanner.rest = joined (passed ++ [unit]) ++ ahead := by
      rw [← joined_segments scanner.rest, cut]
      simp [joined_segments]
    have moved := stands.advance same
    rw [Segment.joined_append, ← List.append_assoc] at moved
    refine ⟨joined passed, unit, begins, ?_, by simpa using moved⟩
    rw [Utf8.size_append, ← stands.offset]
    exact delivers

/-- A pull moves the scanner on in its text. -/
theorem StandsBehind.next {scanner : Scanner} (stands : scanner.StandsBehind text before) :
    ∃ read, scanner.next.2.StandsBehind text (before ++ read) := by
  cases pulled : scanner.next.1 with
  | none =>
    obtain ⟨-, -, last⟩ := scanner.next_spec
    rw [last pulled]
    exact ⟨scanner.rest, stands.advance (List.append_nil _).symm⟩
  | some result =>
    obtain ⟨passed, unit, -, -, stands'⟩ := stands.next_some pulled
    exact ⟨passed ++ unit.text, by rwa [← List.append_assoc]⟩

theorem StandsBehind.after {scanner : Scanner} (stands : scanner.StandsBehind text before)
    (pulls : Nat) : ∃ read, (scanner.after pulls).StandsBehind text (before ++ read) := by
  induction pulls generalizing scanner before with
  | zero => exact ⟨[], by rwa [List.append_nil]⟩
  | succ pulls ih =>
    obtain ⟨read, stands'⟩ := stands.next
    obtain ⟨read', stands''⟩ := ih stands'
    exact ⟨read ++ read', by rwa [← List.append_assoc]⟩

/-- What is left after some pulls is what they have not delivered. -/
theorem pending_after (scanner : Scanner) (pulls : Nat) :
    (scanner.after pulls).pending = scanner.pending.drop pulls := by
  induction pulls generalizing scanner with
  | zero => rfl
  | succ pulls ih =>
    obtain ⟨results, -, last⟩ := scanner.next_spec
    rw [after, ih, results]
    cases pulled : scanner.next.1 with
    | some result => rfl
    | none => simp [last pulled]

theorem next_spent (scanner : Scanner) : scanner.spent.next = (none, scanner.spent) := by
  rw [spent, advance, next]

theorem after_spent (scanner : Scanner) (pulls : Nat) :
    scanner.spent.after pulls = scanner.spent := by
  induction pulls with
  | zero => rfl
  | succ pulls ih => rw [after, next_spent, ih]

theorem spent_after (scanner : Scanner) (pulls : Nat) :
    (scanner.after pulls).spent = scanner.spent := by
  induction pulls generalizing scanner with
  | zero => rfl
  | succ pulls ih =>
    obtain ⟨-, reached, -⟩ := scanner.next_spec
    exact (ih _).trans reached

theorem takeOnto_eq (pulled : List Result) (wanted : Nat) (scanner : Scanner) :
    takeOnto pulled wanted scanner =
      (pulled.reverse ++ scanner.pending.take wanted, scanner.after wanted) := by
  induction wanted generalizing pulled scanner with
  | zero => simp [takeOnto, after]
  | succ wanted ih =>
    obtain ⟨results, -, last⟩ := scanner.next_spec
    rw [takeOnto, after]
    cases next : scanner.next with
    | mk result scanner' =>
      rw [next] at results last
      cases result with
      | some result => simp [ih, results]
      | none =>
        obtain rfl : scanner' = scanner.spent := last rfl
        simp [results, after_spent]

/-- A scanner that is asked for some results pulls so often, or until there is nothing left. -/
theorem take_ofSource (source : String) (wanted : Nat) :
    (ofSource source).take wanted =
      ((scan source).take wanted, (ofSource source).after wanted) := by
  rw [take, takeOnto_eq, scan, drain_eq]
  rfl

/-- The scanner stands in a source behind `before` and goes on like a fresh scanner of the text
ahead: the results that are left are those of that text, each with its line moved on by the lines
that the scanner has behind it and its offset by the bytes. -/
structure ResumesBehind (scanner : Scanner) (source : String) (before : List Char) : Prop where
  whole : source.toList = before ++ scanner.rest
  offset : scanner.offset = Utf8.size before
  line : scanner.line.toNat = 1 + before.count '\n'
  results : scanner.drain.1 = (scan (String.ofList scanner.rest)).map
    (Result.moved scanner.offset (scanner.line.toNat - 1))
  lines : ∀ result ∈ scan (String.ofList scanner.rest),
    (result.moved scanner.offset (scanner.line.toNat - 1)).line.toNat =
      result.line.toNat + (scanner.line.toNat - 1)

private theorem StandsBehind.resumesBehind {scanner : Scanner} {source : String}
    (stands : scanner.StandsBehind source.toList before)
    (bounded : source.toList.count '\n' < 4294967295) : scanner.ResumesBehind source before := by
  have text := stands.whole
  have fewer : before.count '\n' < 4294967295 := by
    rw [text, List.count_append] at bounded
    omega
  have line : scanner.line.toNat = 1 + before.count '\n' := by rw [stands.line, toNat_line fewer]
  have passed : scanner.line.toNat - 1 = before.count '\n' := by omega
  refine ⟨text, stands.offset, line, ?_, fun result member => ?_⟩
  · rw [drain_eq, pending, stands.offset, stands.line, placed_behind, ← stands.line, passed]
  · rw [passed]
    exact result.toNat_line_moved member (text ▸ bounded) _

/-- After any number of pulls a scanner has delivered as many of its results and goes on like a
fresh scanner of the text ahead. Behind an error that is the text behind the unit at fault. -/
theorem resumes_after_pulls (source : String) (bounded : source.toList.count '\n' < 4294967295)
    (pulls : Nat) :
    (ofSource source).take pulls = ((scan source).take pulls, (ofSource source).after pulls) ∧
      let scanner := (ofSource source).after pulls
      scanner.drain.1 = (scan source).drop pulls ∧
        (∃ before, scanner.ResumesBehind source before) ∧
        ∀ error, scanner.next.1 = some (.error error) →
          ∃ before unit, Begins unit scanner.next.2.rest ∧
            Delivers unit (Utf8.size before) scanner.next.2.line (.error error) ∧
            scanner.next.2.ResumesBehind source (before ++ unit.text) := by
  refine ⟨take_ofSource source pulls, ?_⟩
  intro scanner
  obtain ⟨before, stands⟩ := (standsBehind_ofSource source).after pulls
  refine ⟨?_, ⟨_, stands.resumesBehind bounded⟩, ?_⟩
  · rw [drain_eq, pending_after, scan, drain_eq]
  · intro error failed
    obtain ⟨passed, unit, begins, delivers, stands'⟩ := stands.next_some failed
    exact ⟨_, unit, begins, delivers, stands'.resumesBehind bounded⟩

/-- Behind a number stands a line feed, and behind that a stray character of two bytes. -/
theorem resumes_after_number :
    let source := "1\né @"
    let scanner := (ofSource source).after 1
    let error : LexicalError := ⟨2, .unexpectedCharacter 'é' 2⟩
    source.toList.count '\n' < 4294967295 ∧ scanner = ⟨"\né @".toList, 1, 1⟩ ∧
      scanner.drain.1 = (scan "\né @").map (Result.moved 1 0) ∧
      scanner.next = (some (.error error), ⟨" @".toList, 4, 2⟩) ∧
      ∃ before unit, Begins unit " @".toList ∧
        Delivers unit (Utf8.size before) 2 (.error error) ∧
        scanner.next.2.ResumesBehind source (before ++ unit.text) := by
  intro source scanner error
  have bounded : source.toList.count '\n' < 4294967295 := by decide +kernel
  have stands : scanner = ⟨"\né @".toList, 1, 1⟩ := by decide +kernel
  have pulled : scanner.next = (some (.error error), ⟨" @".toList, 4, 2⟩) := by decide +kernel
  obtain ⟨-, -, ⟨before, (resumes : scanner.ResumesBehind source before)⟩, behind⟩ :=
    resumes_after_pulls source bounded 1
  have results := resumes.results
  obtain ⟨before', unit, begins, delivers, resumes'⟩ := behind error (by rw [pulled])
  rw [pulled] at begins delivers
  rw [stands] at results
  refine ⟨bounded, stands, ?_, pulled, before', unit, begins, delivers, resumes'⟩
  rw [stands]
  exact results

end Scanner

end Lox
