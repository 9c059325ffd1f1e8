import Lox.Proofs.Placement

namespace Lox

namespace TokenKind

theorem keyword?_eq_some_iff : keyword? word = some kind ↔ (word, kind) ∈ keywords := by
  constructor
  · intro found
    obtain ⟨before, behind, same, -⟩ := List.lookup_eq_some_iff.mp found
    simp [same]
  · intro member
    have each : ∀ entry ∈ keywords, keyword? entry.1 = some entry.2 := by decide
    exact each _ member

theorem keyword?_eq_none_iff : keyword? word = none ↔ ∀ kind, (word, kind) ∉ keywords := by
  simp [Option.eq_none_iff_forall_ne_some, keyword?_eq_some_iff]

end TokenKind

open Segment (IsUnit)

/-- The result of a unit that begins at byte `offset` and ends on `line`. Words are identifiers
unless they are reserved. Blanks and comments have no result. -/
inductive Delivers : Segment → (offset : Nat) → (line : UInt32) → Result → Prop where
  | string (body : List Char) : Delivers ⟨.string, '"' :: (body ++ ['"'])⟩ offset line
      (.token ⟨.string, String.ofList ('"' :: (body ++ ['"'])), .string (String.ofList body), line⟩)
  | number (numeral : List Char) : Delivers ⟨.number, numeral⟩ offset line
      (.token ⟨.number, String.ofList numeral,
        .number (Decimal.ofNumeral numeral).toBinary64, line⟩)
  | keyword (reserved : (String.ofList word, kind) ∈ TokenKind.keywords) :
      Delivers ⟨.word, word⟩ offset line (.token ⟨kind, String.ofList word, .none, line⟩)
  | identifier (free : ∀ kind, (String.ofList word, kind) ∉ TokenKind.keywords) :
      Delivers ⟨.word, word⟩ offset line
        (.token ⟨.identifier, String.ofList word, .identifier (String.ofList word), line⟩)
  | mark (kind : TokenKind) (text : List Char) : Delivers ⟨.mark kind, text⟩ offset line
      (.token ⟨kind, String.ofList text, .none, line⟩)
  | openString (text : List Char) : Delivers ⟨.openString, text⟩ offset line
      (.error ⟨line, .unterminatedString⟩)
  | openComment (text : List Char) : Delivers ⟨.openComment, text⟩ offset line
      (.error ⟨line, .unterminatedComment⟩)
  | stray (c : Char) : Delivers ⟨.stray, [c]⟩ offset line
      (.error ⟨line, .unexpectedCharacter c offset⟩)

namespace Segment

@[simp] theorem inside_quoted (body : List Char) : inside ('"' :: (body ++ ['"'])) = body := by
  simp [inside]

theorem IsUnit.result?_eq_some_iff {unit : Segment} (isUnit : unit.IsUnit) :
    unit.result? offset line = some result ↔ Delivers unit offset line result := by
  constructor
  · intro found
    obtain ⟨shape, text⟩ := unit
    cases shape with
    | blank | lineComment | blockComment => simp [result?] at found
    | word =>
      simp only [result?] at found
      split at found
      · obtain rfl := Option.some.inj found
        exact .keyword (TokenKind.keyword?_eq_some_iff.mp ‹_›)
      · obtain rfl := Option.some.inj found
        exact .identifier (TokenKind.keyword?_eq_none_iff.mp ‹_›)
    | string =>
      rcases isUnit with admits | ⟨c, -, same⟩
      · cases admits
        simp only [result?, inside_quoted, Option.some.injEq] at found
        subst found
        exact .string _
      · cases same
    | number => obtain rfl := Option.some.inj found; exact .number text
    | mark kind => obtain rfl := Option.some.inj found; exact .mark kind text
    | openString => obtain rfl := Option.some.inj found; exact .openString text
    | openComment => obtain rfl := Option.some.inj found; exact .openComment text
    | stray =>
      rcases isUnit with admits | ⟨c, -, same⟩
      · cases admits
      · cases same
        obtain rfl := Option.some.inj found
        exact .stray c
  · intro delivers
    cases delivers with
    | keyword reserved => simp [result?, TokenKind.keyword?_eq_some_iff.mpr reserved]
    | identifier free => simp [result?, TokenKind.keyword?_eq_none_iff.mpr free]
    | _ => simp [result?]

instance : DecidablePred IsTrivia := fun unit =>
  inferInstanceAs (Decidable (unit.shape = .blank ∨ unit.shape = .lineComment ∨
    unit.shape = .blockComment))

end Segment

/-- Units, each with the text that stands before it. -/
def located (before : List Char) : List Segment → List (List Char × Segment)
  | [] => []
  | unit :: units => (before, unit) :: located (before ++ unit.text) units

end Lox
