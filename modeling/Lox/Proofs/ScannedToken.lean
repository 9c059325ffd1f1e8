import Lox.Proofs.Results

namespace Lox

namespace TokenKind

/-- The shape of the units that deliver tokens of a kind. -/
def shape (kind : TokenKind) : Shape :=
  match kind with
  | .string => .string
  | .number => .number
  | .identifier => .word
  | kind => if kind ∈ keywords.map Prod.snd then .word else .mark kind

private theorem shape_of_mark : ∀ entry ∈ markTexts, entry.2.shape = .mark entry.2 := by decide

private theorem shape_of_keyword : ∀ entry ∈ keywords, entry.2.shape = .word := by decide

private theorem shape_ne (kind : TokenKind) :
    kind.shape ≠ .lineComment ∧ kind.shape ≠ .openComment ∧ kind.shape ≠ .openString := by
  cases kind <;> decide

end TokenKind

namespace Token

/-- Some scan of some source delivers the token. -/
def IsScanned (token : Token) : Prop := ∃ source, Result.token token ∈ scan source

/-- What a token is, wherever it stands. -/
def content (token : Token) : TokenKind × String × Literal :=
  (token.kind, token.lexeme, token.literal)

/-- The unit that a token comes from. -/
def unit (token : Token) : Segment := ⟨token.kind.shape, token.lexeme.toList⟩

/-- Tokens reach no further than their text. -/
theorem unit_reaches (token : Token) (rest : List Char) : token.unit.Reaches rest := by
  obtain ⟨notLine, notComment, notString⟩ := token.kind.shape_ne
  simp only [unit, Segment.Reaches]

end Token

theorem Delivers.unit_eq (delivers : Delivers unit offset line (.token token))
    (isUnit : unit.IsUnit) : token.unit = unit := by
  cases delivers with
  | keyword reserved => simp [Token.unit, TokenKind.shape_of_keyword _ reserved]
  | mark kind text =>
    rcases isUnit with admits | ⟨c, -, same⟩
    · cases admits with
      | mark member => simp [Token.unit, TokenKind.shape_of_mark _ member]
    · cases same
  | _ => simp [Token.unit, TokenKind.shape]

/-- A token goes with its unit to any other place; only its line is another. -/
theorem Delivers.moved (delivers : Delivers unit offset line (.token token)) (offset' : Nat)
    (line' : UInt32) : Delivers unit offset' line' (.token { token with line := line' }) := by
  cases delivers with
  | string body => exact .string body
  | number numeral => exact .number numeral
  | keyword reserved => exact .keyword reserved
  | identifier free => exact .identifier free
  | mark kind text => exact .mark kind text

private theorem mem_placed (member : result ∈ placed offset line units) :
    ∃ unit ∈ units, ∃ offset' line', unit.result? offset' line' = some result := by
  obtain ⟨front, unit, back, rfl, found⟩ := mem_placed_iff.mp member
  exact ⟨unit, by simp, _, _, found⟩

/-- Every result comes from a unit of the source. -/
theorem exists_unit_of_mem_scan (member : result ∈ scan source) :
    ∃ unit ∈ segments source.toList, unit.IsUnit ∧
      ∃ offset line, Delivers unit offset line result := by
  rw [scan_eq_placed] at member
  obtain ⟨unit, present, offset, line, found⟩ := mem_placed member
  have isUnit := isUnit_of_mem_segments present
  exact ⟨unit, present, isUnit, offset, line, isUnit.result?_eq_some_iff.mp found⟩

namespace Token

variable {token : Token}

/-- It is enough to scan the lexeme. -/
theorem IsScanned.of_scan_lexeme (only : scan token.lexeme = [.token token]) : token.IsScanned :=
  ⟨token.lexeme, by simp [only]⟩

theorem IsScanned.delivers (scanned : token.IsScanned) :
    token.unit.IsUnit ∧ ∃ offset line, Delivers token.unit offset line (.token token) := by
  obtain ⟨source, member⟩ := scanned
  obtain ⟨unit, -, isUnit, offset, line, delivers⟩ := exists_unit_of_mem_scan member
  rw [delivers.unit_eq isUnit]
  exact ⟨isUnit, offset, line, delivers⟩

theorem IsScanned.isUnit (scanned : token.IsScanned) : token.unit.IsUnit := scanned.delivers.1

theorem IsScanned.result? (scanned : token.IsScanned) (offset : Nat) (line : UInt32) :
    token.unit.result? offset line = some (.token { token with line := line }) := by
  obtain ⟨isUnit, offset', line', delivers⟩ := scanned.delivers
  exact isUnit.result?_eq_some_iff.mpr (delivers.moved offset line)

end Token

end Lox
