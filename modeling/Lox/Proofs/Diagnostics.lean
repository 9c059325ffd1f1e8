import Lox.Proofs.Boundaries
import Lox.Proofs.Closed
import Lox.Proofs.LineNumbers
import Lox.Proofs.LongestMatch

namespace Lox

open Segment (joined Begins InOrder)

/-- Units end at a place: units that cut the text give the text before the place, and further ones
what is ahead of it. -/
def CutsAt (text before ahead : List Char) : Prop :=
  ∃ front back, IsCutting text (front ++ back) ∧ joined front = before ∧ joined back = ahead

namespace Segment

theorem InOrder.of_append {front : List Segment} (inOrder : InOrder (front ++ units)) :
    InOrder units := by
  refine inOrder_iff.mpr fun before unit behind same => ?_
  have whole : front ++ units = (front ++ before) ++ unit :: behind := by
    rw [same, List.append_assoc]
  exact inOrder.begins whole

end Segment

private theorem segments_joined_back {text : List Char} (same : segments text = front ++ back) :
    segments (joined back) = back :=
  segments_joined (same ▸ inOrder_segments text).of_append

/-- A scan cuts the text in the places where units end. -/
private theorem cutsAt_iff : CutsAt text before ahead ↔
    ∃ front, segments text = front ++ segments ahead ∧ joined front = before := by
  constructor
  · rintro ⟨front, back, cutting, rfl, rfl⟩
    have same := (isCutting_segments text).unique cutting
    exact ⟨front, by rw [segments_joined_back same, same], rfl⟩
  · rintro ⟨front, same, rfl⟩
    exact ⟨front, segments ahead, same ▸ isCutting_segments text, rfl, joined_segments ahead⟩

private theorem cutsAt_unit {text : List Char} (same : segments text = front ++ unit :: back) :
    CutsAt text (joined front) (unit.text ++ joined back) :=
  cutsAt_iff.mpr ⟨front, by rw [← Segment.joined_cons, segments_joined_back same, same], rfl⟩

/-- Something was never closed. -/
def LexicalError.Cause.IsOpen (cause : Cause) : Prop :=
  cause = .unterminatedString ∨ cause = .unterminatedComment

theorem Delivers.isOpen (delivers : Delivers unit offset line (.error error))
    (isOpen : error.cause.IsOpen) : unit.IsOpen := by
  cases delivers with
  | openString => exact .inr rfl
  | openComment => exact .inl rfl
  | stray => rcases isOpen with same | same <;> cases same

/-- The end of the text stands behind what is never closed. -/
private theorem Segment.Begins.eq_nil_of_isOpen {unit : Segment} (begins : unit.Begins rest)
    (isOpen : unit.IsOpen) : rest = [] := by
  have reaches := begins.reaches
  rcases isOpen with shape | shape
  · simpa [Segment.Reaches, shape] using reaches
  · simpa [Segment.Reaches, shape] using reaches

private theorem eq_nil_of_isOpen {text : List Char} (same : segments text = front ++ unit :: back)
    (isOpen : unit.IsOpen) : back = [] := by
  have nothing := ((inOrder_segments text).begins same).eq_nil_of_isOpen isOpen
  have behind : segments text = (front ++ [unit]) ++ back := by simpa using same
  rw [← segments_joined_back behind, nothing, segments_nil]

/-- An error about what is never closed is the last result and the only one of its sort. -/
private theorem scan_isOpen_last (same : scan source = front ++ .error error :: behind)
    (isOpen : error.cause.IsOpen) :
    behind = [] ∧ ∀ other, Result.error other ∈ front → ¬ other.cause.IsOpen := by
  rw [scan_eq_placed] at same
  obtain ⟨units, unit, units', cut, rfl, found⟩ := placed_eq_append_cons same
  have isUnit := isUnit_of_segments_eq cut
  have open' := (isUnit.result?_eq_some_iff.mp found).isOpen isOpen
  obtain rfl := eq_nil_of_isOpen cut open'
  constructor
  · rw [cut, placed_append, placed, found] at same
    simpa [placed] using same.symm
  · intro other member isOpen'
    obtain ⟨before, unit', between, rfl, found'⟩ := mem_placed_iff.mp member
    have cut' : segments source.toList = before ++ unit' :: (between ++ [unit]) := by
      simpa using cut
    have delivers := (isUnit_of_segments_eq cut').result?_eq_some_iff.mp found'
    have last := eq_nil_of_isOpen cut' (delivers.isOpen isOpen')
    simp at last

/-- The pull that delivers such an error leaves the scanner at the end of the text. -/
private theorem Scanner.next_eq_spent (same : scan source = front ++ .error error :: behind)
    (isOpen : error.cause.IsOpen) :
    ((ofSource source).after front.length).next =
      (some (.error error), (ofSource source).spent) := by
  have pulled := next_after source front.length
  rw [same, List.getElem?_append_right (Nat.le_refl _), Nat.sub_self, List.getElem?_cons_zero]
    at pulled
  obtain ⟨before, stands⟩ := (standsBehind_ofSource source).after front.length
  obtain ⟨passed, unit, begins, delivers, -⟩ := stands.next_some pulled
  have atEnd := begins.eq_nil_of_isOpen (delivers.isOpen isOpen)
  obtain ⟨-, reached, -⟩ := ((ofSource source).after front.length).next_spec
  rw [spent_after] at reached
  have stays (scanner : Scanner) (none : scanner.rest = []) : scanner.spent = scanner := by
    obtain ⟨rest, offset, line⟩ := scanner
    obtain rfl : rest = [] := none
    simp [spent, advance]
  exact Prod.ext pulled ((stays _ atEnd).symm.trans reached)

/-- The shapes of what is never closed, with their causes. -/
def openShapes : List (Shape × LexicalError.Cause) :=
  [(.openString, .unterminatedString), (.openComment, .unterminatedComment)]

private theorem openShapes_forms (text : List Char) (member : (shape, cause) ∈ openShapes) :
    Segment.IsOpen ⟨shape, text⟩ ∧
      (∀ offset line, Segment.result? ⟨shape, text⟩ offset line = some (.error ⟨line, cause⟩)) ∧
      ∀ unit offset line line', Delivers unit offset line (.error ⟨line', cause⟩) →
        unit.shape = shape := by
  simp only [openShapes, List.mem_cons, List.not_mem_nil, or_false, Prod.mk.injEq] at member
  rcases member with ⟨rfl, rfl⟩ | ⟨rfl, rfl⟩
  · refine ⟨.inr rfl, fun _ _ => rfl, ?_⟩
    intro unit offset line line' delivers
    cases delivers
    rfl
  · refine ⟨.inl rfl, fun _ _ => rfl, ?_⟩
    intro unit offset line line' delivers
    cases delivers
    rfl

/-- Such an error is reported exactly if there is nothing to close it where a unit is to begin. -/
private theorem exists_error_iff_cutsAt (member : (shape, cause) ∈ openShapes) :
    (∃ line, Result.error ⟨line, cause⟩ ∈ scan source) ↔
      ∃ before ahead, CutsAt source.toList before ahead ∧ shape.Admits ahead := by
  rw [scan_eq_placed]
  constructor
  · rintro ⟨line, member'⟩
    obtain ⟨front, ⟨shape', text⟩, back, cut, found⟩ := mem_placed_iff.mp member'
    have isUnit := isUnit_of_segments_eq cut
    obtain ⟨isOpen, -, only⟩ := openShapes_forms text member
    obtain rfl : shape' = shape := only _ _ _ _ (isUnit.result?_eq_some_iff.mp found)
    have place := cutsAt_unit cut
    rw [eq_nil_of_isOpen cut isOpen, Segment.joined_nil, List.append_nil] at place
    refine ⟨_, _, place, ?_⟩
    rcases isUnit with admits | ⟨c, -, same⟩
    · exact admits
    · cases same
      rcases isOpen with impossible | impossible <;> cases impossible
  · rintro ⟨before, ahead, cuts, admits⟩
    obtain ⟨isOpen, delivered, -⟩ := openShapes_forms ahead member
    obtain ⟨front, cut, -⟩ := cutsAt_iff.mp cuts
    have begins : Begins ⟨shape, ahead⟩ [] := by
      rcases isOpen with rfl | rfl <;> exact ⟨.inl admits, rfl, trivial⟩
    rw [segments_alone begins] at cut
    exact ⟨_, mem_placed_iff.mpr ⟨front, _, [], cut, delivered _ _⟩⟩

/-- A character that no unit is made of: no blank, no ASCII letter, digit or underscore, no quote,
and none of the characters of marks. -/
structure IsForeign (c : Char) : Prop where
  notBlank : c ∉ [' ', '\t', '\r', '\n']
  notAlphanum : ¬ c.isAlphanum
  notUnderscore : c ≠ '_'
  notQuote : c ≠ '"'
  notMark : ∀ entry ∈ markTexts, c ∉ entry.1

private theorem IsStray.isForeign (stray : IsStray c) : IsForeign c := by
  have begins : ∀ entry ∈ markTexts, ∀ c ∈ entry.1, ∃ entry' ∈ markTexts,
      entry'.1.head? = some c := by
    simp [markTexts]
  refine ⟨fun blank => stray _ _ (.blank blank) rfl, ?_, ?_, ?_, ?_⟩
  · intro alphanum
    rcases (Bool.or_eq_true _ _).mp alphanum with letter | digit
    · exact stray _ [c] (.word (.inl letter) (by simp)) rfl
    · exact stray _ [c] (.whole (by simp) (by simpa using digit)) rfl
  · rintro rfl
    exact stray _ ['_'] (.word (.inr rfl) (by simp)) rfl
  · rintro rfl
    exact stray _ ['"'] (.openString (by simp)) rfl
  · intro entry member inside
    obtain ⟨⟨text, kind⟩, member', head⟩ := begins entry member c inside
    exact stray _ _ (.mark member') head

/-- The shapes that may hold any character. -/
def Shape.sheltering : List Shape :=
  [.string, .openString, .lineComment, .blockComment, .openComment]

/-- Outside of strings, comments and what is never closed such a character is a unit of its own. -/
private theorem Segment.IsUnit.eq_stray {unit : Segment} (isUnit : unit.IsUnit)
    (foreign : IsForeign c) (member : c ∈ unit.text) (unsheltered : unit.shape ∉ Shape.sheltering) :
    unit = ⟨.stray, [c]⟩ := by
  have notDigit : ¬ c.isDigit := by
    intro digit
    exact foreign.notAlphanum (by simp [Char.isAlphanum, digit])
  have notPart : isWordPart c = false := by
    simpa [isWordPart, foreign.notUnderscore] using foreign.notAlphanum
  obtain ⟨shape, text⟩ := unit
  cases shape with
  | string | openString | lineComment | blockComment | openComment =>
    exact absurd (by simp [Shape.sheltering]) unsheltered
  | blank =>
    rcases isUnit with admits | ⟨_, -, same⟩
    · cases admits with
      | blank blank => exact absurd (List.mem_singleton.mp member ▸ blank) foreign.notBlank
    · cases same
  | number =>
    have noPoint : c ≠ '.' := by
      rintro rfl
      exact foreign.notMark (['.'], .dot) (by simp [markTexts]) (by simp)
    exact absurd member (isUnit.not_mem_number notDigit noPoint)
  | word => exact absurd member (isUnit.not_mem_word notPart)
  | mark kind =>
    rcases isUnit with admits | ⟨_, -, same⟩
    · cases admits with
      | mark entry => exact absurd member (foreign.notMark _ entry)
    · cases same
  | stray =>
    rcases isUnit with admits | ⟨d, -, same⟩
    · cases admits
    · cases same
      rw [List.mem_singleton.mp member]

/-- The place behind `before` lies in the unit behind the units `front`. -/
structure LiesIn (before : List Char) (front : List Segment) (unit : Segment) : Prop where
  front_le : joined front <+: before
  lt : before.length < (joined front).length + unit.text.length

/-- An item behind a beginning of a list is in another beginning of it or behind that. -/
private theorem behind_or_inside {α : Type} {front rest before behind : List α} {item : α}
    (same : front ++ rest = before ++ item :: behind) :
    (∃ between, before = front ++ between ∧ rest = between ++ item :: behind) ∨
      ∃ inside, front = before ++ item :: inside := by
  rcases List.append_eq_append_iff.mp same with ⟨between, rfl, later⟩ | ⟨inside, rfl, later⟩
  · exact .inl ⟨between, rfl, later⟩
  · cases inside with
    | nil => exact .inl ⟨[], by simp, later.symm⟩
    | cons other inside =>
      obtain ⟨rfl, -⟩ := List.cons.inj later
      exact .inr ⟨inside, rfl⟩

private theorem exists_liesIn (text : List Char) (same : text = before ++ c :: behind) :
    ∃ front unit back, segments text = front ++ unit :: back ∧ LiesIn before front unit ∧
      c ∈ unit.text := by
  induction text using units_induction generalizing before with
  | nil => simp at same
  | unit unit rest begins ih =>
    rw [segments_begins begins]
    rcases behind_or_inside same with ⟨between, rfl, later⟩ | ⟨inside, text⟩
    · obtain ⟨front, other, back, cut, ⟨front_le, lt⟩, member⟩ := ih later
      refine ⟨unit :: front, other, back, by rw [cut, List.cons_append], ⟨?_, ?_⟩, member⟩
      · exact (List.prefix_append_right_inj _).mpr front_le
      · simp only [Segment.joined_cons, List.length_append]
        omega
    · refine ⟨[], unit, segments rest, rfl, ⟨List.nil_prefix, ?_⟩, by simp [text]⟩
      simp [text]

/-- A unit behind the one that a place lies in begins behind the place. -/
private theorem LiesIn.not_later (lies : LiesIn before front unit)
    (lies' : LiesIn before (front ++ unit :: between) unit') : False := by
  have most := lies.lt
  have least := lies'.front_le.length_le
  simp only [Segment.joined_append, Segment.joined_cons, List.length_append] at least
  omega

theorem LiesIn.unique {units : List Segment} (lies : LiesIn before front unit)
    (lies' : LiesIn before front' unit') (same : units = front ++ unit :: back)
    (same' : units = front' ++ unit' :: back') : front = front' ∧ unit = unit' := by
  rcases behind_or_inside (same.symm.trans same') with ⟨between, rfl, later⟩ | ⟨inside, rfl⟩
  · cases between with
    | nil => exact ⟨by simp, (List.cons.inj later).1⟩
    | cons other between =>
      obtain ⟨rfl, -⟩ := List.cons.inj later
      exact (lies.not_later lies').elim
  · exact (lies'.not_later lies).elim

/-- The place behind `before` lies inside a string, a comment or what is never closed: of the units
that cut the text, such a one begins at the place or before it and ends behind the place. -/
def Encloses (text before : List Char) : Prop :=
  ∃ front unit back, IsCutting text (front ++ unit :: back) ∧ LiesIn before front unit ∧
    unit.shape ∈ Shape.sheltering

private theorem encloses_iff {text : List Char} (same : segments text = front ++ unit :: back)
    (lies : LiesIn before front unit) :
    Encloses text before ↔ unit.shape ∈ Shape.sheltering := by
  constructor
  · rintro ⟨front', unit', back', cutting, lies', sheltering⟩
    have same' := (isCutting_segments text).unique cutting
    obtain ⟨-, rfl⟩ := lies.unique lies' same same'
    exact sheltering
  · intro sheltering
    exact ⟨front, unit, back, same ▸ isCutting_segments text, lies, sheltering⟩

/-- The character and the offset that a result reports as stray. -/
def Result.stray? : Result → Option (Char × Nat)
  | .error ⟨_, .unexpectedCharacter c offset⟩ => some (c, offset)
  | _ => none

def straysOf (source : String) : List (Char × Nat) := (scan source).filterMap Result.stray?

private theorem Delivers.stray?_eq (delivers : Delivers unit offset line result)
    (reported : result.stray? = some (c, offset')) : unit = ⟨.stray, [c]⟩ ∧ offset' = offset := by
  cases delivers with
  | stray d =>
    obtain ⟨rfl, rfl⟩ := Prod.mk.inj (Option.some.inj reported)
    exact ⟨rfl, rfl⟩
  | _ => cases reported

private theorem mem_strays_iff {units : List Segment} (isUnit : ∀ unit ∈ units, unit.IsUnit) :
    (c, offset') ∈ (placed offset line units).filterMap Result.stray? ↔
      ∃ front back, units = front ++ ⟨.stray, [c]⟩ :: back ∧
        offset' = offset + Utf8.size (joined front) := by
  rw [List.mem_filterMap]
  constructor
  · rintro ⟨result, member, reported⟩
    obtain ⟨front, unit, back, rfl, found⟩ := mem_placed_iff.mp member
    have delivers := (isUnit unit (by simp)).result?_eq_some_iff.mp found
    obtain ⟨rfl, rfl⟩ := delivers.stray?_eq reported
    exact ⟨front, back, rfl, rfl⟩
  · rintro ⟨front, back, rfl, rfl⟩
    exact ⟨_, mem_placed_iff.mpr ⟨front, _, back, rfl, rfl⟩, rfl⟩

theorem size_pos_of_ne_nil {text : List Char} (nonempty : text ≠ []) : 0 < Utf8.size text := by
  cases text with
  | nil => exact absurd rfl nonempty
  | cons c text =>
    have positive := c.utf8Size_pos
    rw [Utf8.size_cons]
    omega

private theorem strays_increasing {units : List Segment} (isUnit : ∀ unit ∈ units, unit.IsUnit)
    (offset : Nat) (line : UInt32) :
    ((placed offset line units).filterMap Result.stray?).Pairwise fun stray stray' =>
      stray.2 < stray'.2 := by
  induction units generalizing offset line with
  | nil => exact .nil
  | cons unit units ih =>
    obtain ⟨here, isUnit'⟩ := List.forall_mem_cons.mp isUnit
    have positive := size_pos_of_ne_nil here.text_ne_nil
    rw [placed, List.filterMap_append, List.pairwise_append]
    refine ⟨?_, ih isUnit' _ _, ?_⟩
    · cases unit.result? offset (line + feeds unit.text) with
      | none => exact .nil
      | some result => cases reported : result.stray? <;> simp [reported]
    · rintro ⟨c, first⟩ member ⟨d, second⟩ member'
      obtain ⟨result, delivered, reported⟩ := List.mem_filterMap.mp member
      have delivers := here.result?_eq_some_iff.mp (Option.mem_toList.mp delivered)
      obtain ⟨-, rfl⟩ := delivers.stray?_eq reported
      obtain ⟨front, back, -, rfl⟩ := (mem_strays_iff isUnit').mp member'
      simp only
      omega

/-- A stray character is reported exactly where it stands outside of strings, comments and what is
never closed. -/
private theorem mem_straysOf_iff : (c, offset) ∈ straysOf source ↔
    ∃ before behind, source.toList = before ++ c :: behind ∧ offset = Utf8.size before ∧
      IsForeign c ∧ ¬ Encloses source.toList before := by
  have whole := joined_segments source.toList
  rw [straysOf, scan_eq_placed, mem_strays_iff fun _ => isUnit_of_mem_segments]
  simp only [Nat.zero_add]
  constructor
  · rintro ⟨front, back, cut, rfl⟩
    have isUnit := isUnit_of_segments_eq cut
    have lies : LiesIn (joined front) front ⟨.stray, [c]⟩ := ⟨List.prefix_rfl, by simp⟩
    refine ⟨joined front, joined back, ?_, rfl, isUnit.isStray.isForeign, ?_⟩
    · rw [← whole, cut]
      simp
    · rw [encloses_iff cut lies]
      simp [Shape.sheltering]
  · rintro ⟨before, behind, text, rfl, foreign, free⟩
    obtain ⟨front, unit, back, cut, lies, member⟩ := exists_liesIn source.toList text
    rw [encloses_iff cut lies] at free
    obtain rfl := (isUnit_of_segments_eq cut).eq_stray foreign member free
    have least := lies.lt
    simp only [List.length_singleton] at least
    have same := lies.front_le.eq_of_length_le (by omega)
    exact ⟨front, back, cut, by rw [same]⟩

theorem filter_eq_singleton {strays : List (Char × Nat)}
    (increasing : strays.Pairwise fun stray stray' => stray.2 < stray'.2)
    (member : (c, offset) ∈ strays) :
    strays.filter (fun stray => stray.2 = offset) = [(c, offset)] := by
  obtain ⟨front, back, rfl⟩ := List.append_of_mem member
  obtain ⟨-, later, earlier⟩ := List.pairwise_append.mp increasing
  obtain ⟨behind, -⟩ := List.pairwise_cons.mp later
  have none : front.filter (fun stray => stray.2 = offset) = [] := by
    rw [List.filter_eq_nil_iff]
    intro stray before
    have less := earlier stray before (c, offset) (by simp)
    simp only [decide_eq_true_eq]
    omega
  have none' : back.filter (fun stray => stray.2 = offset) = [] := by
    rw [List.filter_eq_nil_iff]
    intro stray after
    have less := behind stray after
    simp only [decide_eq_true_eq]
    omega
  simp [none, none']

/-- What a scan says about the faults of its source. -/
structure ReportsFaults (source : String) : Prop where
  /-- What is never closed is reported at most once, and last, and the scanner is at the end then. -/
  last : ∀ front error behind, scan source = front ++ .error error :: behind →
    error.cause.IsOpen →
      behind = [] ∧ (∀ other, Result.error other ∈ front → ¬ other.cause.IsOpen) ∧
        ((Scanner.ofSource source).after front.length).next =
          (some (.error error), (Scanner.ofSource source).spent)
  openString : (∃ line, Result.error ⟨line, .unterminatedString⟩ ∈ scan source) ↔
    ∃ before body, CutsAt source.toList before ('"' :: body) ∧ '"' ∉ body
  openComment : (∃ line, Result.error ⟨line, .unterminatedComment⟩ ∈ scan source) ↔
    ∃ before body, CutsAt source.toList before ('/' :: '*' :: body) ∧ ¬ ['*', '/'] <:+: body
  stray : ∀ c offset, (c, offset) ∈ straysOf source ↔
    ∃ before behind, source.toList = before ++ c :: behind ∧ offset = Utf8.size before ∧
      IsForeign c ∧ ¬ Encloses source.toList before
  /-- The offset of a stray character is that of its first byte, and all its bytes stand there. -/
  whole : ∀ c offset, (c, offset) ∈ straysOf source → Utf8.IsBoundary source.toList offset ∧
    String.utf8EncodeChar c <+: (Utf8.encode source.toList).drop offset
  increasing : (straysOf source).Pairwise fun stray stray' => stray.2 < stray'.2
  once : ∀ c offset, (c, offset) ∈ straysOf source →
    (straysOf source).filter (fun stray => stray.2 = offset) = [(c, offset)]

/-- Each fault of a source is reported once. -/
theorem scan_reportsFaults (source : String) : ReportsFaults source := by
  have increasing : (straysOf source).Pairwise fun stray stray' => stray.2 < stray'.2 := by
    rw [straysOf, scan_eq_placed]
    exact strays_increasing (fun _ => isUnit_of_mem_segments) 0 1
  refine ⟨?_, ?_, ?_, fun _ _ => mem_straysOf_iff, ?_, increasing, ?_⟩
  · intro front error behind same isOpen
    obtain ⟨none, others⟩ := scan_isOpen_last same isOpen
    exact ⟨none, others, Scanner.next_eq_spent same isOpen⟩
  · have known : (Shape.openString, LexicalError.Cause.unterminatedString) ∈ openShapes := by
      simp [openShapes]
    rw [exists_error_iff_cutsAt known]
    constructor
    · rintro ⟨before, ahead, cuts, admits⟩
      cases admits with
      | openString noQuote => exact ⟨before, _, cuts, noQuote⟩
    · rintro ⟨before, body, cuts, noQuote⟩
      exact ⟨before, _, cuts, .openString noQuote⟩
  · have known : (Shape.openComment, LexicalError.Cause.unterminatedComment) ∈ openShapes := by
      simp [openShapes]
    rw [exists_error_iff_cutsAt known]
    constructor
    · rintro ⟨before, ahead, cuts, admits⟩
      cases admits with
      | openComment noEnd => exact ⟨before, _, cuts, noEnd⟩
    · rintro ⟨before, body, cuts, noEnd⟩
      exact ⟨before, _, cuts, .openComment noEnd⟩
  · intro c offset member
    obtain ⟨before, behind, text, rfl, -⟩ := mem_straysOf_iff.mp member
    refine ⟨⟨before, c :: behind, text, rfl⟩, ?_⟩
    rw [text, Utf8.drop_encode, Utf8.encode_cons]
    exact List.prefix_append _ _
  · exact fun _ _ => filter_eq_singleton increasing

/-- What a comment or an open string holds is not reported, and a character of two bytes once. -/
example : straysOf "é@/*#*/#\n\"$" = [('é', 0), ('@', 2), ('#', 8)] := by decide +kernel

end Lox
