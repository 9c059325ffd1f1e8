import Lox.Scanner

/-!
The grammar of units: which texts have which shape, and how what stands behind a unit bears on it.
The rules are stated over whole texts and name no position. A character that no rule begins with is
stray.
-/

namespace Lox

/-- The texts of all marks. -/
def markTexts : List (List Char × TokenKind) :=
  [(['('], .leftParen), ([')'], .rightParen), (['\x7b'], .leftBrace), (['\x7d'], .rightBrace),
    ([','], .comma), (['.'], .dot), (['-'], .minus), (['+'], .plus), ([';'], .semicolon),
    (['*'], .star), (['/'], .slash),
    (['!'], .bang), (['!', '='], .bangEqual), (['='], .equal), (['=', '='], .equalEqual),
    (['<'], .less), (['<', '='], .lessEqual), (['>'], .greater), (['>', '='], .greaterEqual)]

namespace Shape

/-- The texts that have a shape. The end of a comment is looked for behind its two opening
characters, so that `/*/` is open, and the end that closes it is the first one. -/
inductive Admits : Shape → List Char → Prop where
  | blank (member : c ∈ [' ', '\t', '\r', '\n']) : Admits .blank [c]
  | lineComment (noFeed : '\n' ∉ body) : Admits .lineComment ('/' :: '/' :: body)
  | blockComment (noEnd : ¬ ['*', '/'] <:+: body ++ ['*']) :
      Admits .blockComment ('/' :: '*' :: (body ++ ['*', '/']))
  | openComment (noEnd : ¬ ['*', '/'] <:+: body) : Admits .openComment ('/' :: '*' :: body)
  | openString (noQuote : '"' ∉ body) : Admits .openString ('"' :: body)
  | string (noQuote : '"' ∉ body) : Admits .string ('"' :: (body ++ ['"']))
  | whole (nonempty : digits ≠ []) (numeric : ∀ c ∈ digits, c.isDigit) : Admits .number digits
  | fractional (nonempty : digits ≠ []) (numeric : ∀ c ∈ digits, c.isDigit)
      (nonempty' : decimals ≠ []) (numeric' : ∀ c ∈ decimals, c.isDigit) :
      Admits .number (digits ++ '.' :: decimals)
  | word (start : c.isAlpha ∨ c = '_') (parts : ∀ d ∈ body, d.isAlphanum ∨ d = '_') :
      Admits .word (c :: body)
  | mark (member : (text, kind) ∈ markTexts) : Admits (.mark kind) text

end Shape

/-- A character that no text of any shape begins with. -/
def IsStray (c : Char) : Prop :=
  ∀ shape text, Shape.Admits shape text → text.head? ≠ some c

namespace Segment

/-- What the rules ask of the text behind a unit. A line comment reaches to the next line feed or to
the end of the text, and what is never closed reaches to the end. -/
def Reaches (unit : Segment) (rest : List Char) : Prop :=
  match unit.shape with
  | .lineComment => rest = [] ∨ rest.head? = some '\n'
  | .openComment | .openString => rest = []
  | _ => True

/-- A rule of the grammar takes `unit` off a text and leaves `rest`. The same text may give several
units by several rules; the rule for stray characters is not among them. -/
structure Reads (unit : Segment) (rest : List Char) : Prop where
  admits : unit.shape.Admits unit.text
  reaches : unit.Reaches rest

/-- The unit takes as much of the text as any rule can, and only it takes that much. A stray
character is a unit where there is no rule at all. -/
structure IsLongest (unit : Segment) (rest : List Char) : Prop where
  reads : unit.Reads rest ∨
    ∃ c, unit = ⟨.stray, [c]⟩ ∧
      ∀ other rest', other.text ++ rest' = c :: rest → ¬ Reads other rest'
  longest : ∀ other rest', other.text ++ rest' = unit.text ++ rest → Reads other rest' →
    other = unit ∨ other.text.length < unit.text.length

/-- A character that a number goes on with is not next: neither a digit nor, behind digits only, a
point and a digit. -/
def NumberStops (text rest : List Char) : Prop :=
  (∀ c ∈ rest.head?, ¬ c.isDigit) ∧
    ('.' ∈ text ∨ ∀ c more, rest = '.' :: c :: more → ¬ c.isDigit)

/-- The first characters that make a longer unit of a mark. -/
def extenders : TokenKind → List Char
  | .slash => ['/', '*']
  | .bang | .equal | .less | .greater => ['=']
  | _ => []

/-- No character that would make the unit longer is next. -/
def Stops (unit : Segment) (rest : List Char) : Prop :=
  match unit.shape with
  | .number => NumberStops unit.text rest
  | .word => ∀ c ∈ rest.head?, ¬ isWordPart c
  | .mark kind => ∀ c ∈ rest.head?, c ∉ extenders kind
  | _ => True

/-- The texts of units, the stray characters among them. -/
def IsUnit (unit : Segment) : Prop :=
  unit.shape.Admits unit.text ∨ ∃ c, IsStray c ∧ unit = ⟨.stray, [c]⟩

/-- The unit is the first one of a text that goes on with `rest`: decided by the unit itself and the
next two characters, unless it reaches to the end. -/
structure Begins (unit : Segment) (rest : List Char) : Prop where
  isUnit : unit.IsUnit
  reaches : unit.Reaches rest
  stops : unit.Stops rest

/-- The text that units were cut from. -/
def joined (units : List Segment) : List Char := units.flatMap Segment.text

end Segment

end Lox
