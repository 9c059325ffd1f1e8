import Lox.Proofs.Units

namespace Lox

namespace Utf8

private theorem size_foldl (text : List Char) (bytes : Nat) :
    text.foldl (fun bytes c => bytes + c.utf8Size) bytes = bytes + size text := by
  induction text generalizing bytes with
  | nil => rfl
  | cons c text ih =>
    rw [size, List.foldl_cons, List.foldl_cons, ih, ih (0 + c.utf8Size)]
    omega

@[simp] theorem size_nil : size [] = 0 := rfl

@[simp] theorem size_cons (c : Char) (text : List Char) :
    size (c :: text) = c.utf8Size + size text := by
  rw [size, List.foldl_cons, size_foldl, Nat.zero_add]

@[simp] theorem size_append (text text' : List Char) :
    size (text ++ text') = size text + size text' := by
  rw [size, List.foldl_append, size_foldl]
  rfl

end Utf8

/-- How many lines a text adds. -/
def feeds (text : List Char) : UInt32 := UInt32.ofNat (text.count '\n')

@[simp] theorem feeds_nil : feeds [] = 0 := rfl

@[simp] theorem feeds_append (text text' : List Char) :
    feeds (text ++ text') = feeds text + feeds text' := by
  simp [feeds, List.count_append, UInt32.ofNat_add]

/-- The line behind a text, counted from one. -/
theorem toNat_line (bounded : text.count '\n' < 4294967295) :
    (1 + feeds text).toNat = 1 + text.count '\n' := by
  rw [feeds, UInt32.toNat_add, UInt32.toNat_ofNat', UInt32.toNat_one]
  omega

/-- The results of units that stand behind `offset` bytes and begin on `line`. -/
def placed (offset : Nat) (line : UInt32) : List Segment → List Result
  | [] => []
  | unit :: units =>
    (unit.result? offset (line + feeds unit.text)).toList ++
      placed (offset + Utf8.size unit.text) (line + feeds unit.text) units

open Segment (joined)

theorem placed_append (offset : Nat) (line : UInt32) (units units' : List Segment) :
    placed offset line (units ++ units') = placed offset line units ++
      placed (offset + Utf8.size (joined units)) (line + feeds (joined units)) units' := by
  induction units generalizing offset line with
  | nil => simp [placed]
  | cons unit units ih =>
    simp only [List.cons_append, placed, ih, Segment.joined_cons, Utf8.size_append, feeds_append,
      List.append_assoc, Nat.add_assoc, UInt32.add_assoc]

/-- A result among others is that of a unit among others, which deliver the results before it and
behind it. -/
theorem placed_eq_append_cons (same : placed offset line units = results ++ result :: results') :
    ∃ front unit back, units = front ++ unit :: back ∧ placed offset line front = results ∧
      unit.result? (offset + Utf8.size (joined front))
        (line + feeds (joined front) + feeds unit.text) = some result := by
  induction units generalizing offset line results with
  | nil => simp [placed] at same
  | cons first units ih =>
    rw [placed] at same
    cases found : first.result? offset (line + feeds first.text) with
    | none =>
      rw [found] at same
      obtain ⟨front, unit, back, rfl, rfl, found'⟩ := ih same
      exact ⟨first :: front, unit, back, rfl, by simp [placed, found],
        by simpa [Nat.add_assoc, UInt32.add_assoc] using found'⟩
    | some other =>
      rw [found] at same
      cases results with
      | nil =>
        obtain ⟨rfl, -⟩ := List.cons.inj same
        exact ⟨[], first, units, rfl, rfl, by simpa using found⟩
      | cons other' results =>
        obtain ⟨rfl, later⟩ := List.cons.inj same
        obtain ⟨front, unit, back, rfl, rfl, found'⟩ := ih later
        exact ⟨first :: front, unit, back, rfl, by simp [placed, found],
          by simpa [Nat.add_assoc, UInt32.add_assoc] using found'⟩

/-- The results are those of the units, each behind the units before it. -/
theorem mem_placed_iff : result ∈ placed offset line units ↔
    ∃ front unit back, units = front ++ unit :: back ∧
      unit.result? (offset + Utf8.size (joined front))
        (line + feeds (joined front) + feeds unit.text) = some result := by
  constructor
  · intro member
    obtain ⟨results, results', same⟩ := List.append_of_mem member
    obtain ⟨front, unit, back, split, -, found⟩ := placed_eq_append_cons same
    exact ⟨front, unit, back, split, found⟩
  · rintro ⟨front, unit, back, rfl, found⟩
    rw [placed_append, placed, found]
    simp

namespace Segment

/-- Blanks and comments. -/
def IsTrivia (unit : Segment) : Prop :=
  unit.shape = .blank ∨ unit.shape = .lineComment ∨ unit.shape = .blockComment

theorem IsTrivia.result?_eq_none {unit : Segment} (trivia : unit.IsTrivia) (offset : Nat)
    (line : UInt32) : unit.result? offset line = none := by
  rcases trivia with shape | shape | shape <;> simp [result?, shape]

theorem not_isTrivia_of_result? {unit : Segment} (found : unit.result? offset line = some result) :
    ¬ unit.IsTrivia := by
  intro trivia
  rw [trivia.result?_eq_none] at found
  cases found

theorem IsUnit.isTrivia_iff {unit : Segment} (isUnit : unit.IsUnit) (offset : Nat)
    (line : UInt32) : unit.IsTrivia ↔ unit.result? offset line = none := by
  refine ⟨fun trivia => trivia.result?_eq_none offset line, ?_⟩
  intro nothing
  obtain ⟨shape, text⟩ := unit
  cases shape with
  | blank => exact .inl rfl
  | lineComment => exact .inr (.inl rfl)
  | blockComment => exact .inr (.inr rfl)
  | word =>
    simp only [result?] at nothing
    split at nothing <;> simp at nothing
  | stray =>
    rcases isUnit with admits | ⟨c, -, same⟩
    · cases admits
    · cases same
      simp [result?] at nothing
  | _ => simp [result?] at nothing

end Segment

theorem placed_trivia {units : List Segment} (trivia : ∀ unit ∈ units, unit.IsTrivia)
    (offset : Nat) (line : UInt32) : placed offset line units = [] := by
  induction units generalizing offset line with
  | nil => rfl
  | cons unit units ih =>
    have here := (trivia unit (by simp)).result?_eq_none offset (line + feeds unit.text)
    simp [placed, here, ih fun other member => trivia other (by simp [member])]

namespace Scanner

/-- The results that are left to pull. -/
def pending (scanner : Scanner) : List Result :=
  placed scanner.offset scanner.line (segments scanner.rest)

/-- The scanner at the end of its text. -/
def spent (scanner : Scanner) : Scanner := scanner.advance scanner.rest []

@[simp] theorem spent_advance (scanner : Scanner) (text rest : List Char)
    (same : scanner.rest = text ++ rest) : (scanner.advance text rest).spent = scanner.spent := by
  have bytes : Utf8.size scanner.rest = Utf8.size text + Utf8.size rest := by
    rw [same, Utf8.size_append]
  have lines : scanner.rest.count '\n' = text.count '\n' + rest.count '\n' := by
    rw [same, List.count_append]
  simp [spent, advance, bytes, lines, UInt32.ofNat_add, UInt32.add_assoc, Nat.add_assoc]

@[simp] theorem pending_spent (scanner : Scanner) : scanner.spent.pending = [] := by
  simp [pending, spent, advance, segments_nil, placed]

theorem pending_cons (first : Char) (rest : List Char) (offset : Nat) (line : UInt32) :
    let unit := (Segment.split first rest).1
    let scanner := Scanner.advance ⟨first :: rest, offset, line⟩ unit.text
      (Segment.split first rest).2
    pending ⟨first :: rest, offset, line⟩ =
      (unit.result? offset scanner.line).toList ++ scanner.pending := by
  simp only [pending]
  rw [segments]
  rfl

/-- A pull delivers the first of the pending results and leaves the others. It stays on the way to
the end of the text, and it has reached the end where it delivers nothing. -/
theorem next_spec (scanner : Scanner) :
    scanner.pending = scanner.next.1.toList ++ scanner.next.2.pending ∧
      scanner.next.2.spent = scanner.spent ∧
      (scanner.next.1 = none → scanner.next.2 = scanner.spent) := by
  fun_induction next scanner with
  | case1 offset line => simp [pending, segments_nil, placed, spent, advance]
  | case2 first rest offset line cutting scanner' result found =>
    obtain ⟨same, -⟩ := Segment.split_spec first rest
    refine ⟨?_, spent_advance _ _ _ same, by simp⟩
    rw [pending_cons, found]
  | case3 first rest offset line cutting scanner' nothing ih =>
    obtain ⟨same, -⟩ := Segment.split_spec first rest
    obtain ⟨results, reached, last⟩ := ih
    have onTheWay : scanner'.spent = Scanner.spent ⟨first :: rest, offset, line⟩ :=
      spent_advance _ _ _ same
    refine ⟨?_, reached.trans onTheWay, fun none => (last none).trans onTheWay⟩
    rw [pending_cons, nothing]
    exact results

private theorem drainOnto_eq (pulled : List Result) (scanner : Scanner) :
    drainOnto pulled scanner = (pulled.reverse ++ scanner.pending, scanner.spent) := by
  fun_induction drainOnto pulled scanner with
  | case1 pulled scanner scanner' next =>
    obtain ⟨results, -, last⟩ := next_spec scanner
    simp only [next, forall_const] at results last
    rw [results, last, pending_spent]
    simp
  | case2 pulled scanner result scanner' next ih =>
    obtain ⟨results, reached, -⟩ := next_spec scanner
    simp only [next] at results reached
    rw [ih, results, reached]
    simp

theorem drain_eq (scanner : Scanner) : scanner.drain = (scanner.pending, scanner.spent) :=
  drainOnto_eq [] scanner

end Scanner

/-- All results of a source are those of its units. -/
theorem scan_eq_placed (source : String) : scan source = placed 0 1 (segments source.toList) := by
  rw [scan, Scanner.drain_eq]
  rfl

end Lox
