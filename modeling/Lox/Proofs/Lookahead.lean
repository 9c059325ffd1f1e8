import Lox.Proofs.Results

namespace Lox

namespace Segment

/-- A whole number and a point, which a digit would make one number. -/
def AwaitsDigit (unit : Segment) (rest : List Char) : Prop :=
  unit.shape = .number ∧ '.' ∉ unit.text ∧ rest = ['.']

theorem NumberStops.append {text : List Char} (stops : NumberStops text (c :: rest))
    (settled : '.' ∈ text ∨ c :: rest ≠ ['.']) (more : List Char) :
    NumberStops text (c :: rest ++ more) := by
  obtain ⟨noDigit, noPoint⟩ := stops
  refine ⟨noDigit, ?_⟩
  rcases settled with fraction | longer
  · exact .inl fraction
  · refine noPoint.imp_right fun noPoint d behind same => ?_
    cases rest with
    | nil =>
      obtain ⟨rfl, -⟩ := List.cons.inj same
      exact absurd rfl longer
    | cons d' rest =>
      obtain ⟨rfl, rfl, -⟩ : c = '.' ∧ d' = d ∧ rest ++ more = behind := by simpa using same
      exact noPoint _ _ rfl

theorem Stops.append {unit : Segment} (stops : unit.Stops (c :: rest))
    (settled : ¬ unit.AwaitsDigit (c :: rest)) (more : List Char) :
    unit.Stops (c :: rest ++ more) := by
  obtain ⟨shape, text⟩ := unit
  cases shape with
  | number =>
    have settled' : '.' ∈ text ∨ c :: rest ≠ ['.'] := by
      by_cases fraction : '.' ∈ text
      · exact .inl fraction
      · exact .inr fun point => settled ⟨rfl, fraction, point⟩
    exact NumberStops.append stops settled' more
  | word => exact stops
  | mark kind => exact stops
  | _ => trivial

/-- A unit with something behind it stays as it is when the text goes on. -/
theorem Begins.append {unit : Segment} (begins : unit.Begins rest) (present : rest ≠ [])
    (settled : ¬ unit.AwaitsDigit rest) (more : List Char) : unit.Begins (rest ++ more) := by
  obtain ⟨c, rest, rfl⟩ := List.exists_cons_of_ne_nil present
  refine ⟨begins.isUnit, ?_, begins.stops.append settled more⟩
  have reaches := begins.reaches
  obtain ⟨shape, text⟩ := unit
  cases shape with
  | lineComment => exact .inr (reaches.resolve_left (by simp))
  | openComment => exact absurd reaches (by simp [Reaches])
  | openString => exact absurd reaches (by simp [Reaches])
  | _ => trivial

end Segment

private theorem segments_point : segments ['.'] = [⟨.mark .dot, ['.']⟩] := by
  have begins : Segment.Begins ⟨.mark .dot, ['.']⟩ [] :=
    ⟨.inl (.mark (by simp [markTexts])), trivial, by simp [Segment.Stops]⟩
  exact segments_alone begins

/-- A text that goes on keeps its units but the last, or the last two where these are a whole number
and a point. -/
private theorem exists_kept_segments (text more : List Char) :
    ∃ kept late, segments text = kept ++ late ∧ kept <+: segments (text ++ more) ∧
      (late.length ≤ 1 ∨
        ∃ numeral, '.' ∉ numeral ∧ late = [⟨.number, numeral⟩, ⟨.mark .dot, ['.']⟩]) := by
  induction text using units_induction with
  | nil => exact ⟨[], [], segments_nil, List.nil_prefix, .inl (by simp)⟩
  | unit unit rest begins ih =>
    cases rest with
    | nil =>
      refine ⟨[], [unit], ?_, List.nil_prefix, .inl (by simp)⟩
      rw [segments_begins begins, segments_nil, List.nil_append]
    | cons c rest =>
      by_cases settled : unit.AwaitsDigit (c :: rest)
      · obtain ⟨number, whole, point⟩ := settled
        obtain ⟨shape, numeral⟩ := unit
        obtain rfl : shape = .number := number
        refine ⟨[], [⟨.number, numeral⟩, ⟨.mark .dot, ['.']⟩], ?_, List.nil_prefix,
          .inr ⟨numeral, whole, rfl⟩⟩
        rw [segments_begins begins, point, segments_point, List.nil_append]
      · obtain ⟨kept, late, same, start, few⟩ := ih
        refine ⟨unit :: kept, late, ?_, ?_, few⟩
        · rw [segments_begins begins, same, List.cons_append]
        · rw [List.append_assoc, segments_begins (begins.append (by simp) settled more)]
          exact List.cons_prefix_cons.mpr ⟨rfl, start⟩

theorem length_placed_le (offset : Nat) (line : UInt32) (units : List Segment) :
    (placed offset line units).length ≤ units.length := by
  induction units generalizing offset line with
  | nil => exact Nat.le_refl 0
  | cons unit units ih =>
    have later := ih (offset + Utf8.size unit.text) (line + feeds unit.text)
    have here := Option.length_toList_le (o := unit.result? offset (line + feeds unit.text))
    rw [placed, List.length_append, List.length_cons]
    omega

/-- The last results of a source are a whole number and a point, and the source ends with them. -/
def EndsAtPoint (source : String) : Prop :=
  ∃ earlier number point, scan source = earlier ++ [.token number, .token point] ∧
    number.kind = .number ∧ '.' ∉ number.lexeme.toList ∧ point.kind = .dot ∧
    number.lexeme.toList ++ ['.'] <:+ source.toList

private theorem take_append_isPrefix {α : Type} {front back : List α}
    (few : wanted ≤ front.length) : (front ++ back).take wanted <+: front := by
  rw [List.take_append_of_le_length few]
  exact List.take_prefix wanted front

/-- What is written behind a source changes none of its results but the last, or the last two where
the source ends with a whole number and a point. -/
theorem take_scan_prefix_scan_append (front back : String) :
    (scan front).take ((scan front).length - 2) <+: scan (front ++ back) ∧
      (EndsAtPoint front ∨
        (scan front).take ((scan front).length - 1) <+: scan (front ++ back)) := by
  obtain ⟨kept, late, same, ⟨others, whole⟩, few⟩ :=
    exists_kept_segments front.toList back.toList
  have results := scan_eq_placed front
  rw [same, placed_append] at results
  have longer : placed 0 1 kept <+: scan (front ++ back) := by
    rw [scan_eq_placed, String.toList_append, ← whole, placed_append]
    exact List.prefix_append _ _
  have fewer := length_placed_le (0 + Utf8.size (Segment.joined kept))
    (1 + feeds (Segment.joined kept)) late
  rw [results, List.length_append]
  rcases few with single | ⟨numeral, noPoint, rfl⟩
  · exact ⟨(take_append_isPrefix (by omega)).trans longer,
      .inr ((take_append_isPrefix (by omega)).trans longer)⟩
  · simp only [List.length_cons, List.length_nil] at fewer
    refine ⟨(take_append_isPrefix (by omega)).trans longer, .inl ?_⟩
    refine ⟨placed 0 1 kept, _, _, results, rfl, by simpa using noPoint, rfl, ?_⟩
    rw [← joined_segments front.toList, same]
    simp

/-- The number in front of a point does change where a digit is written behind the point. -/
example : ¬ (scan "1.").take 1 <+: scan ("1." ++ "5") := by decide +kernel

end Lox
