import Lox.Log
import Lox.Log.Pattern
import Lox.Text.Lines

/-!
Directives: what a log filter is made of. A directive sets a threshold for the records of some
targets, and perhaps only for those in a span or with a field. The forms are `LEVEL`, `TARGET`,
`TARGET=LEVEL` and `TARGET[SPAN{FIELD}]=LEVEL`; all parts of the last may be missing, but the
brackets may not.
-/

namespace Lox.Log

/-- A field that a record has to have, perhaps with a value that matches a pattern. -/
structure FieldTest where
  name : String
  pattern : Option String
deriving DecidableEq, Repr

/-- A name, or a name and a pattern behind an equals sign. A second equals sign ends the pattern. -/
def FieldTest.parse? (text : List Char) : Option FieldTest :=
  let name := text.takeWhile (· ≠ '=')
  match text.drop name.length with
  | [] => some ⟨String.ofList name, none⟩
  | _ :: more =>
    let pattern := more.takeWhile (· ≠ '=')
    if isPattern pattern then some ⟨String.ofList name, some (String.ofList pattern)⟩ else none

structure Directive where
  /-- What the target of a record begins with. -/
  target : Option String
  /-- The span that a record stands in. -/
  span : Option String
  field : Option FieldTest
  threshold : Nat
deriving DecidableEq, Repr

/-- A whole number in decimal digits, perhaps with a plus sign. -/
def number? (text : List Char) : Option Nat :=
  let digits := if text.head? = some '+' then text.drop 1 else text
  if digits ≠ [] ∧ digits.all Char.isDigit then some (Nat.ofDigitChars 10 digits 0) else none

/-- A threshold is a level's name, in any case, or its verbosity, or says that nothing is shown. -/
def threshold? (text : List Char) : Option Nat :=
  match number? text with
  | some verbosity => if verbosity ≤ Level.trace.verbosity then some verbosity else none
  | none =>
    let lower := String.ofList (text.map Char.toLower)
    if lower = "off" then some 0
    else (Level.all.find? (·.name.map Char.toLower = lower)).map Level.verbosity

namespace Directive

/-- A directive with neither span nor field begins with a letter, a digit or one of three signs. -/
def isStart (c : Char) : Bool := Text.isAlphanumeric c || c == '-' || c == ':' || c == '_'

/-- Read a directive. White space around it is passed over when its parts are located, but each part
is taken from that place of the text as it is: behind leading white space the parts are displaced,
and trailing white space belongs to the last of them. Without a level everything is shown. -/
def parse? (text : List Char) : Option Directive :=
  let trimmed := trimEnd (text.dropWhile isWhiteSpace)
  let part (start length : Nat) : List Char := (text.drop start).take length
  let shown := Level.trace.verbosity
  let level? (start : Nat) : Option Nat :=
    if text.drop start = [] then some shown else threshold? (text.drop start)
  let leveled? (target span : Option String) (field : Option FieldTest) (start : Nat) :
      Option Directive :=
    match trimmed.drop start with
    | [] => some ⟨target, span, field, shown⟩
    | '=' :: _ => (level? (start + 1)).map (⟨target, span, field, ·⟩)
    | _ => none
  let bracketed? (target : Option String) (start : Nat) : Option Directive :=
    let length := ((trimmed.drop start).takeWhile fun c => c ≠ ']' ∧ c ≠ '\x7b').length
    let span := String.ofList (part start length)
    match trimmed.drop (start + length) with
    | ']' :: _ => leveled? target (some span) none (start + length + 1)
    | '\x7b' :: more =>
      let test := (more.takeWhile (· ≠ '\x7d')).length
      match more.drop test with
      | '\x7d' :: ']' :: _ => do
        if test = 0 then none
        let field ← FieldTest.parse? (part (start + length + 1) test)
        leveled? target (if length = 0 then none else some span) (some field)
          (start + length + test + 3)
      | _ => none
    | _ => none
  match trimmed with
  | [] => none
  | '[' :: _ => bracketed? none 1
  | first :: _ =>
    if isStart first then
      let length := (trimmed.takeWhile fun c => c ≠ '=' ∧ c ≠ '[').length
      let target := String.ofList (part 0 length)
      match trimmed.drop length with
      | '=' :: _ => (level? (length + 1)).map (⟨some target, none, none, ·⟩)
      | _ :: _ => bracketed? (some target) (length + 1)
      | [] =>
        match threshold? text with
        | some threshold => some ⟨none, none, none, threshold⟩
        | none => some ⟨some (String.ofList text), none, none, shown⟩
    else none

/-- Whether a directive is about an event. No event of the program stands in a span, and the values
of fields are compared only in spans. -/
def covers (directive : Directive) (event : Event) : Bool :=
  directive.span.isNone &&
    directive.target.all (·.toList.isPrefixOf event.target.toList) &&
    directive.field.all fun field =>
      field.pattern.isNone && ("message" :: event.fields.map (·.1)).contains field.name

/-- How closely a directive describes what it covers: by the length of its target, and then by the
field that it names. -/
def closeness (directive : Directive) : Nat × String :=
  ((directive.target.map (·.utf8ByteSize + 1)).getD 0, (directive.field.map (·.name)).getD "")

end Directive

end Lox.Log
