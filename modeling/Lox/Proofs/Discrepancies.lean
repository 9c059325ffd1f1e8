import Lox.Conformance.Comparison
import Lox.Proofs.Lines
import Mathlib.Data.List.Forall2

namespace Lox.Conformance

/-- The lines of a text as they are compared, read off the text. -/
def ShowsLines (text : List Char) (shown : List String) : Prop :=
  ∃ all, HasLines text all ∧ List.Forall₂ (fun line seen => Trims line seen.toList) all shown

private theorem showsLines_iff : ShowsLines text shown ↔ shown = comparedLines text := by
  have trimmed (line : List Char) (seen : String) :
      Trims line seen.toList ↔ String.ofList (trimEnd line) = seen := by
    rw [trims_iff]
    constructor
    · intro same
      rw [← same, String.ofList_toList]
    · rintro rfl
      exact String.toList_ofList
  have each (all : List (List Char)) :
      List.Forall₂ (fun line seen => Trims line seen.toList) all shown ↔
        all.map (fun line => String.ofList (trimEnd line)) = shown := by
    simp only [trimmed]
    rw [← List.forall₂_map_left_iff, List.forall₂_eq_eq_eq]
  constructor
  · rintro ⟨all, has, shows⟩
    rw [comparedLines, ← hasLines_iff.mp has, (each all).mp shows]
  · rintro rfl
    exact ⟨lines text, hasLines_lines text, (each _).mpr rfl⟩

/-- The places that both lists have and where they differ, in order. -/
def differing (wanted shown : List String) : List Nat :=
  (List.range (min wanted.length shown.length)).filter fun place =>
    wanted[place]? ≠ shown[place]?

theorem differing_cons (want line : String) (wanted shown : List String) :
    differing (want :: wanted) (line :: shown) =
      (if want = line then [] else [0]) ++ (differing wanted shown).map (· + 1) := by
  have shorter : min (want :: wanted).length (line :: shown).length =
      min wanted.length shown.length + 1 := Nat.succ_min_succ _ _
  have later :
      (fun place => decide ((want :: wanted)[place]? ≠ (line :: shown)[place]?)) ∘ Nat.succ =
        fun place => decide (wanted[place]? ≠ shown[place]?) := by
    funext place
    simp
  rw [differing, shorter, List.range_succ_eq_map, List.filter_cons, List.filter_map, later,
    differing]
  by_cases same : want = line
  · simp [same]
  · simp [same]

/-- A discrepancy that shows what is expected at a place and what stands there. -/
def DiffersAt (wanted shown : List String) (place : Nat) (found : Discrepancy) : Prop :=
  ∃ want line, wanted[place]? = some want ∧ shown[place]? = some line ∧ found = .different want line

theorem forall₂_differsAt_succ (want line : String) (wanted shown : List String)
    {places : List Nat} {found : List Discrepancy}
    (each : List.Forall₂ (DiffersAt wanted shown) places found) :
    List.Forall₂ (DiffersAt (want :: wanted) (line :: shown)) (places.map (· + 1)) found := by
  rw [List.forall₂_map_left_iff]
  exact each.imp fun _ _ differs => by simpa [DiffersAt] using differs

/-- The discrepancies within both lists and those behind the shorter one. At least one of the two
lists has nothing behind the other. -/
private theorem exists_discrepancies_eq (wanted shown : List String) :
    ∃ within, List.Forall₂ (DiffersAt wanted shown) (differing wanted shown) within ∧
      discrepancies wanted shown = within ++
        ((shown.drop wanted.length).map .unexpected ++ (wanted.drop shown.length).map .missing) := by
  fun_induction discrepancies wanted shown with
  | case1 shown => exact ⟨[], by simp [differing], by simp⟩
  | case2 wanted notBoth => exact ⟨[], by simp [differing], by simp⟩
  | case3 wanted line shown ih =>
    obtain ⟨within, each, same⟩ := ih
    refine ⟨within, ?_, by simpa using same⟩
    rw [differing_cons, if_pos rfl, List.nil_append]
    exact forall₂_differsAt_succ line line wanted shown each
  | case4 want wanted line shown different ih =>
    obtain ⟨within, each, same⟩ := ih
    refine ⟨.different want line :: within, ?_, by simpa using same⟩
    rw [differing_cons, if_neg different, List.singleton_append]
    exact .cons ⟨want, line, rfl, rfl, rfl⟩ (forall₂_differsAt_succ want line wanted shown each)

theorem discrepancies_eq_nil_iff (wanted shown : List String) :
    discrepancies wanted shown = [] ↔ wanted = shown := by
  fun_induction discrepancies wanted shown with
  | case1 shown => simp [eq_comm]
  | case2 wanted notBoth => simp
  | case3 wanted line shown ih => simpa using ih
  | case4 want wanted line shown different ih => simp [different]

/-- The discrepancies of two lists of lines: none exactly if the lists are equal, otherwise those of
the places where they differ, in order, and behind them the lines that one list has in excess. -/
structure Reports (wanted shown : List String) (found : List Discrepancy) : Prop where
  empty_iff : found = [] ↔ wanted = shown
  length_eq : found.length = (differing wanted shown).length +
    (max wanted.length shown.length - min wanted.length shown.length)
  inOrder : ∃ within excess, found = within ++ excess ∧
    List.Forall₂ (DiffersAt wanted shown) (differing wanted shown) within ∧
    (wanted.length ≤ shown.length ∧ excess = (shown.drop wanted.length).map .unexpected ∨
      shown.length ≤ wanted.length ∧ excess = (wanted.drop shown.length).map .missing)

private theorem reports_discrepancies (wanted shown : List String) :
    Reports wanted shown (discrepancies wanted shown) := by
  obtain ⟨within, each, same⟩ := exists_discrepancies_eq wanted shown
  refine ⟨discrepancies_eq_nil_iff wanted shown, ?_, within, _, same, each, ?_⟩
  · have count := each.length_eq
    rw [same, count]
    simp only [List.length_append, List.length_map, List.length_drop]
    omega
  · rcases Nat.le_total wanted.length shown.length with shorter | shorter
    · exact .inl ⟨shorter, by rw [List.drop_eq_nil_of_le shorter]; simp⟩
    · exact .inr ⟨shorter, by rw [List.drop_eq_nil_of_le shorter]; simp⟩

/-- A comparison reports every discrepancy between what is expected and the lines of the text, and
nothing else. -/
theorem compare_reports_discrepancies (wanted : List String) (text : List Char) :
    ∃ shown, (∀ other, ShowsLines text other ↔ other = shown) ∧
      Reports wanted shown (compare wanted text) :=
  ⟨comparedLines text, fun _ => showsLines_iff, reports_discrepancies wanted _⟩

end Lox.Conformance
