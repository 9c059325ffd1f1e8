import Lox.Proofs.Numerals
import Lox.Proofs.ScannedToken
import Lox.Value

namespace Lox

/-- The kinds of the tokens that denote values. -/
def TokenKind.literals : List TokenKind := [.number, .string, .true, .false, .nil]

/-- How a token shows its value: numbers and strings by their literal, words by themselves. -/
def Token.shown (token : Token) : String :=
  if token.kind ∈ [.number, .string] then token.literal.text else token.lexeme

namespace Value

/-- What a value is written as: a string between quotes, any other value as its text. -/
def source : Value → String
  | string body => "\"" ++ body ++ "\""
  | value => value.text

/-- Values whose text is read as them: all but strings, and of the numbers those that are finite and
have no sign. -/
inductive IsBare : Value → Prop where
  | nil : IsBare nil
  | bool (value : Bool) : IsBare (bool value)
  | number (finite : x.isFinite) (unsigned : x.isNegative = false) : IsBare (number x)

/-- Values that can be written: a string has no quote in it. -/
inductive IsWritable : Value → Prop where
  | bare (bare : value.IsBare) : IsWritable value
  | string {body : String} (noQuote : '"' ∉ body.toList) : IsWritable (string body)

theorem IsBare.source_eq {value : Value} (bare : value.IsBare) : value.source = value.text := by
  cases bare <;> rfl

end Value

namespace Token

/-- A token denotes a value exactly if its kind is that of a literal, and the value shows as the
token does. -/
def ShowsValue (token : Token) : Prop :=
  ((Value.ofToken? token).isSome ↔ token.kind ∈ TokenKind.literals) ∧
    ∀ value ∈ Value.ofToken? token, value.text = token.shown

private theorem showsValue_keyword : ∀ entry ∈ TokenKind.keywords, ∀ line,
    ShowsValue ⟨entry.2, entry.1, .none, line⟩ := by
  simp [TokenKind.keywords, ShowsValue, Value.ofToken?, TokenKind.literals, shown, Value.text]

private theorem showsValue_mark : ∀ entry ∈ markTexts, ∀ line,
    ShowsValue ⟨entry.2, String.ofList entry.1, .none, line⟩ := by
  simp [markTexts, ShowsValue, Value.ofToken?, TokenKind.literals]

end Token

/-- The literal of a token goes with its kind. -/
private theorem Delivers.showsValue (delivers : Delivers unit offset line (.token token))
    (isUnit : unit.IsUnit) : token.ShowsValue := by
  cases delivers with
  | string | number =>
    simp [Token.ShowsValue, Value.ofToken?, TokenKind.literals, Token.shown, Value.text,
      Literal.text]
  | keyword reserved => exact Token.showsValue_keyword _ reserved line
  | identifier free => simp [Token.ShowsValue, Value.ofToken?, TokenKind.literals]
  | mark kind text =>
    rcases isUnit with admits | ⟨c, -, same⟩
    · cases admits with
      | mark member => exact Token.showsValue_mark _ member line
    · cases same

open Segment (Begins)

/-- A text that is one unit has one result. -/
private theorem scan_of_begins {unit : Segment} (begins : unit.Begins [])
    (delivers : Delivers unit 0 (1 + feeds unit.text) result) :
    scan (String.ofList unit.text) = [result] := by
  have found := begins.isUnit.result?_eq_some_iff.mpr delivers
  rw [scan_eq_placed, String.toList_ofList, segments_alone begins, placed, found]
  rfl

namespace Value

/-- What a value is written as is the lexeme of a token that denotes it. -/
theorem IsWritable.exists_token {value : Value} (writable : value.IsWritable) :
    ∃ token, token.lexeme = value.source ∧ ofToken? token = some value ∧
      scan value.source = [.token token] := by
  cases writable with
  | bare bare =>
    cases bare with
    | nil => exact ⟨⟨.nil, "nil", .none, 1⟩, rfl, rfl, by decide +kernel⟩
    | bool value =>
      cases value with
      | false => exact ⟨⟨.false, "false", .none, 1⟩, rfl, rfl, by decide +kernel⟩
      | true => exact ⟨⟨.true, "true", .none, 1⟩, rfl, rfl, by decide +kernel⟩
    | @number x finite unsigned =>
      have begins : Begins ⟨.number, x.shortest.numeral⟩ [] :=
        ⟨.inl x.shortest.admits_numeral, trivial, by simp, .inr (by simp)⟩
      have written : source (.number x) = String.ofList x.shortest.numeral :=
        Binary64.text_eq_numeral finite unsigned
      have read := scan_of_begins begins (.number _)
      rw [Binary64.toBinary64_numeral finite unsigned, ← written] at read
      exact ⟨⟨.number, _, .number x, _⟩, rfl, rfl, read⟩
  | @string body noQuote =>
    have begins : Begins ⟨.string, '"' :: (body.toList ++ ['"'])⟩ [] :=
      ⟨.inl (.string noQuote), trivial, trivial⟩
    have written : source (.string body) = String.ofList ('"' :: (body.toList ++ ['"'])) := by
      simp [source, ← String.toList_inj]
    have read := scan_of_begins begins (.string _)
    rw [String.ofList_toList, ← written] at read
    exact ⟨⟨.string, _, .string body, _⟩, rfl, rfl, read⟩

end Value

/-- The tokens of a source denote values by their kinds and show them, and each value that can be
written is the one that its source text is read as. -/
theorem literals_correspond :
    (∀ source token, Result.token token ∈ scan source → token.ShowsValue) ∧
      ∀ value : Value, value.IsWritable →
        ∃ token, scan value.source = [.token token] ∧ Value.ofToken? token = some value := by
  constructor
  · intro source token member
    obtain ⟨unit, -, isUnit, offset, line, delivers⟩ := exists_unit_of_mem_scan member
    exact delivers.showsValue isUnit
  · intro value writable
    obtain ⟨token, -, denotes, only⟩ := writable.exists_token
    exact ⟨token, only, denotes⟩

/-- A number that is not written as it shows, a string over two lines that opens a comment, and the
least number that is not zero. -/
theorem literals_correspond_over_lines :
    let token : Token := ⟨.number, "0.50", .number ⟨0x3FE0000000000000⟩, 1⟩
    let values : List Value := [.string "é\n/*", .number ⟨1⟩]
    Result.token token ∈ scan "nil 0.50" ∧ token.ShowsValue ∧
      ∀ value ∈ values, value.IsWritable ∧
        ∃ token, scan value.source = [.token token] ∧ Value.ofToken? token = some value := by
  intro token values
  have read : scan "nil 0.50" = [.token ⟨.nil, "nil", .none, 1⟩, .token token] := by
    decide +kernel
  have member : Result.token token ∈ scan "nil 0.50" := by simp [read]
  refine ⟨member, literals_correspond.1 _ _ member, ?_⟩
  have writable : ∀ value ∈ values, value.IsWritable := by
    simp only [values, List.forall_mem_cons]
    exact ⟨.string (by decide), .bare (.number (by decide +kernel) (by decide +kernel)), by simp⟩
  exact fun value present => ⟨writable value present, literals_correspond.2 value
    (writable value present)⟩

end Lox
