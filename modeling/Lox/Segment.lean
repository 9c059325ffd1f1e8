import Lox.Result
import Lox.Text.Utf8

/-!
The units that a source text falls into. The first unit of a text is its longest beginning that has
one of the shapes below; it is never empty, so that the units put together are the text again.
-/

namespace Lox

/-- What a unit of source text is. Blanks and comments carry nothing; an opened comment or string
that is never closed runs to the end of the text; a stray character begins no other unit. -/
inductive Shape where
  | blank
  | lineComment
  | blockComment
  | openComment
  | openString
  | string
  | number
  | word
  | mark (kind : TokenKind)
  | stray
deriving DecidableEq, Repr

def isBlank (c : Char) : Bool := c == ' ' || c == '\t' || c == '\r' || c == '\n'

/-- Words begin with an ASCII letter or an underscore. -/
def isWordStart (c : Char) : Bool := c.isAlpha || c == '_'

def isWordPart (c : Char) : Bool := c.isAlphanum || c == '_'

/-- The marks of one character that no other mark begins with. -/
def loneMark? : Char → Option TokenKind
  | '(' => some .leftParen
  | ')' => some .rightParen
  | '\x7b' => some .leftBrace
  | '\x7d' => some .rightBrace
  | ',' => some .comma
  | '.' => some .dot
  | '-' => some .minus
  | '+' => some .plus
  | ';' => some .semicolon
  | '*' => some .star
  | _ => none

/-- The marks that a following equals sign extends: the kind without it and the kind with it. -/
def extensibleMark? : Char → Option (TokenKind × TokenKind)
  | '!' => some (.bang, .bangEqual)
  | '=' => some (.equal, .equalEqual)
  | '<' => some (.less, .lessEqual)
  | '>' => some (.greater, .greaterEqual)
  | _ => none

/-- How many characters stand before the first end of a block comment, counted on from `before`. -/
def commentLength? (before : Nat) : List Char → Option Nat
  | [] => none
  | '*' :: '/' :: _ => some before
  | _ :: rest => commentLength? (before + 1) rest

def digitRun (text : List Char) : Nat := (text.takeWhile Char.isDigit).length

/-- How much of `text` continues a number: more digits, and a point if a digit follows it. -/
def numberTail (text : List Char) : Nat :=
  let whole := digitRun text
  match text.drop whole with
  | '.' :: digit :: rest => if digit.isDigit then whole + 2 + digitRun rest else whole
  | _ => whole

/-- The shape of the first unit of the text `first :: rest`, and how much of `rest` it takes. -/
def cut (first : Char) (rest : List Char) : Shape × Nat :=
  if isBlank first then (.blank, 0)
  else if first.isDigit then (.number, numberTail rest)
  else if isWordStart first then (.word, (rest.takeWhile isWordPart).length)
  else if first = '"' then
    match rest.idxOf? '"' with
    | some inside => (.string, inside + 1)
    | none => (.openString, rest.length)
  else if first = '/' then
    match rest with
    | '/' :: comment => (.lineComment, 1 + (comment.takeWhile (· ≠ '\n')).length)
    | '*' :: comment =>
      match commentLength? 0 comment with
      | some inside => (.blockComment, 1 + inside + 2)
      | none => (.openComment, rest.length)
    | _ => (.mark .slash, 0)
  else match loneMark? first with
    | some kind => (.mark kind, 0)
    | none =>
      match extensibleMark? first with
      | some (kind, extended) =>
        if rest.head? = some '=' then (.mark extended, 1) else (.mark kind, 0)
      | none => (.stray, 0)

/-- A unit of source text. -/
structure Segment where
  shape : Shape
  text : List Char
deriving DecidableEq, Repr

namespace Segment

/-- The first unit of the text `first :: rest`, and the text behind it. -/
def split (first : Char) (rest : List Char) : Segment × List Char :=
  let (shape, length) := cut first rest
  (⟨shape, first :: rest.take length⟩, rest.drop length)

theorem split_rest_length_le (first : Char) (rest : List Char) :
    (split first rest).2.length ≤ rest.length := by
  simp [split]

/-- The text between the quotes of a string. -/
def inside (text : List Char) : List Char := (text.drop 1).dropLast

/-- What a unit delivers that begins at byte `offset` and ends on `line`. Blanks and comments
deliver nothing. -/
def result? (segment : Segment) (offset : Nat) (line : UInt32) : Option Result :=
  let lexeme := String.ofList segment.text
  let token (kind : TokenKind) (literal : Literal) : Option Result :=
    some (.token ⟨kind, lexeme, literal, line⟩)
  let error (cause : LexicalError.Cause) : Option Result := some (.error ⟨line, cause⟩)
  match segment.shape with
  | .blank | .lineComment | .blockComment => none
  | .openComment => error .unterminatedComment
  | .openString => error .unterminatedString
  | .string => token .string (.string (String.ofList (inside segment.text)))
  | .number => token .number (.number (Decimal.ofNumeral segment.text).toBinary64)
  | .word =>
    match TokenKind.keyword? lexeme with
    | some keyword => token keyword .none
    | none => token .identifier (.identifier lexeme)
  | .mark kind => token kind .none
  | .stray =>
    match segment.text with
    | character :: _ => error (.unexpectedCharacter character offset)
    | [] => none

end Segment

/-- All units of a text, in order. -/
def segments : List Char → List Segment
  | [] => []
  | first :: rest =>
    (Segment.split first rest).1 :: segments (Segment.split first rest).2
termination_by text => text.length
decreasing_by
  have shorter := Segment.split_rest_length_le first rest
  simp only [List.length_cons]
  omega

end Lox
