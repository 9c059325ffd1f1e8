import Lox.Proofs.Cutting

namespace Lox

theorem IsStray.ne_feed (stray : IsStray c) : c ≠ '\n' := by
  rintro rfl
  exact stray _ _ (.blank (by simp)) rfl

namespace Segment

theorem IsUnit.text_ne_nil {unit : Segment} (isUnit : unit.IsUnit) : unit.text ≠ [] := by
  obtain ⟨shape, text⟩ := unit
  rcases isUnit with admits | ⟨c, -, same⟩
  · cases admits with
    | whole nonempty => exact nonempty
    | mark member =>
      rintro rfl
      simp [markTexts] at member
    | _ => simp
  · cases same
    simp

theorem IsUnit.isStray (isUnit : IsUnit ⟨.stray, [c]⟩) : IsStray c := by
  rcases isUnit with admits | ⟨d, stray, same⟩
  · cases admits
  · obtain rfl : c = d := by simpa using same
    exact stray

theorem IsUnit.not_mem_word (isUnit : IsUnit ⟨.word, word⟩) (other : isWordPart c = false) :
    c ∉ word := by
  rw [isWordPart, Bool.or_eq_false_iff] at other
  obtain ⟨notAlphanum, notUnderscore⟩ := other
  rcases isUnit with admits | ⟨_, -, same⟩
  · cases admits with
    | word start parts =>
      intro member
      rcases List.mem_cons.mp member with rfl | later
      · rcases start with letter | rfl
        · simp [Char.isAlphanum, letter] at notAlphanum
        · simp at notUnderscore
      · rcases parts _ later with part | rfl
        · simp [part] at notAlphanum
        · simp at notUnderscore
  · cases same

theorem IsUnit.not_mem_number (isUnit : IsUnit ⟨.number, numeral⟩) (notDigit : ¬ c.isDigit)
    (notPoint : c ≠ '.') : c ∉ numeral := by
  rcases isUnit with admits | ⟨_, -, same⟩
  · generalize shape : Shape.number = other at admits
    cases admits with
    | whole nonempty numeric => exact fun member => notDigit (numeric _ member)
    | fractional nonempty numeric nonempty' numeric' =>
      intro member
      rcases List.mem_append.mp member with whole | member
      · exact notDigit (numeric _ whole)
      · rcases List.mem_cons.mp member with point | behind
        · exact notPoint point
        · exact notDigit (numeric' _ behind)
    | _ => cases shape
  · cases same

@[simp] theorem joined_nil : joined [] = [] := rfl

@[simp] theorem joined_cons (unit : Segment) (units : List Segment) :
    joined (unit :: units) = unit.text ++ joined units := rfl

@[simp] theorem joined_append (units units' : List Segment) :
    joined (units ++ units') = joined units ++ joined units' := by
  simp [joined]

/-- Each unit begins what it and the units behind it give. -/
inductive InOrder : List Segment → Prop where
  | nil : InOrder []
  | cons (begins : unit.Begins (joined units)) (inOrder : InOrder units) : InOrder (unit :: units)

end Segment

open Segment

theorem segments_nil : segments [] = [] := by rw [segments]

theorem segments_begins {unit : Segment} (begins : unit.Begins rest) :
    segments (unit.text ++ rest) = unit :: segments rest := by
  cases found : unit.text ++ rest with
  | nil => exact absurd (List.append_eq_nil_iff.mp found).1 begins.isUnit.text_ne_nil
  | cons first tail =>
    have same := begins.split_eq found.symm
    rw [segments, same]

theorem segments_alone {unit : Segment} (begins : unit.Begins []) : segments unit.text = [unit] := by
  have only := segments_begins begins
  rwa [List.append_nil, segments_nil] at only

/-- What holds of the empty text, and of a text whenever it holds behind the first unit, holds of
all texts. -/
theorem units_induction {motive : List Char → Prop} (nil : motive [])
    (unit : ∀ unit rest, Begins unit rest → motive rest → motive (unit.text ++ rest))
    (text : List Char) : motive text := by
  induction text using segments.induct with
  | case1 => exact nil
  | case2 first tail ih =>
    obtain ⟨same, begins⟩ := split_spec first tail
    rw [same]
    exact unit _ _ begins ih

theorem joined_segments (text : List Char) : joined (segments text) = text := by
  induction text using units_induction with
  | nil => rw [segments_nil]; rfl
  | unit unit rest begins ih => rw [segments_begins begins, joined_cons, ih]

theorem inOrder_segments (text : List Char) : InOrder (segments text) := by
  induction text using units_induction with
  | nil => rw [segments_nil]; exact .nil
  | unit unit rest begins ih =>
    rw [segments_begins begins]
    refine .cons ?_ ih
    rwa [joined_segments]

theorem segments_joined (inOrder : InOrder units) : segments (joined units) = units := by
  induction inOrder with
  | nil => exact segments_nil
  | cons begins _ ih => rw [joined_cons, segments_begins begins, ih]

theorem segments_joined_iff : segments (joined units) = units ↔ InOrder units := by
  constructor
  · intro same
    rw [← same]
    exact inOrder_segments _
  · exact segments_joined

namespace Segment

theorem inOrder_iff {units : List Segment} :
    InOrder units ↔ ∀ before unit behind, units = before ++ unit :: behind →
      unit.Begins (joined behind) := by
  induction units with
  | nil => simp [InOrder.nil]
  | cons first rest ih =>
    constructor
    · intro inOrder before unit behind same
      cases inOrder with
      | cons begins inOrder =>
        cases before with
        | nil =>
          cases same
          exact begins
        | cons _ before => exact ih.mp inOrder before unit behind (List.cons.inj same).2
    · intro each
      refine .cons (each [] first rest rfl) (ih.mpr ?_)
      intro before unit behind same
      exact each (first :: before) unit behind (by simp [same])

theorem InOrder.begins {units : List Segment} (inOrder : InOrder units)
    (same : units = before ++ unit :: behind) : unit.Begins (joined behind) :=
  inOrder_iff.mp inOrder before unit behind same

end Segment

theorem isUnit_of_segments_eq {text : List Char} (same : segments text = front ++ unit :: back) :
    unit.IsUnit :=
  ((inOrder_segments text).begins same).isUnit

theorem isUnit_of_mem_segments {text : List Char} (member : unit ∈ segments text) : unit.IsUnit := by
  obtain ⟨before, behind, same⟩ := List.append_of_mem member
  exact isUnit_of_segments_eq same

theorem infix_of_mem_segments {text : List Char} (member : unit ∈ segments text) :
    unit.text <:+: text := by
  obtain ⟨before, behind, same⟩ := List.append_of_mem member
  refine ⟨joined before, joined behind, ?_⟩
  rw [← joined_segments text, same, joined_append, joined_cons, List.append_assoc]

end Lox
