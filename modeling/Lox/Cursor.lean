import Lox.Log
import Lox.Segment

/-!
Scanning byte by byte. A cursor moves through the bytes of a text, one byte at a time, and so stands
inside a character every now and then. It reads single bytes and cuts slices out of the text. A byte
that the text does not have, a slice whose ends are out of order or inside a character, and a line
behind the last one that can be numbered are faults.

Tokens and errors are recorded where they are made, in the middle of a pull. What a cursor does is
written once for all ways to keep records; `step` keeps none, `recordStep` all of them.
-/

namespace Lox

structure Cursor where
  /-- The first byte of the unit that is read. -/
  start : Nat
  /-- The byte that is read next. -/
  current : Nat
  line : UInt32
deriving DecidableEq, Repr

namespace Cursor

def initial : Cursor := ⟨0, 0, 1⟩

inductive Fault where
  | missingByte (index : Nat)
  | brokenSlice (start stop : Nat)
  | lastLine
deriving DecidableEq, Repr

/-- What a cursor is doing: it stands before a unit, behind the first byte of one, or within one of
the loops that read on. -/
inductive Point where
  | head
  | dispatch (c : Char)
  | lineComment
  | blockComment
  | string
  | whole
  | decimals
  | word
deriving DecidableEq, Repr

/-- A cursor goes on, or the pull ends with a result or with none. -/
inductive Motion where
  | goesOn (point : Point) (cursor : Cursor)
  | delivers (result : Option Result) (cursor : Cursor)
deriving DecidableEq, Repr

/-- A byte is looked at as the character of its number. -/
def latin (byte : UInt8) : Char := Char.ofNat byte.toNat

/-- Digits, or digits on either side of a point. No other text of a number is ever read. -/
def isNumeral (text : List Char) : Bool :=
  match text.dropWhile Char.isDigit with
  | [] => text ≠ []
  | '.' :: decimals => text.head? ≠ some '.' && decimals ≠ [] && decimals.all Char.isDigit
  | _ => false

section Reads

variable (bytes : List UInt8)

def isEnd (cursor : Cursor) : Bool := bytes.length ≤ cursor.current

def charAt (index : Nat) : Except Fault Char :=
  match bytes[index]? with
  | some byte => .ok (latin byte)
  | none => .error (.missingByte index)

def nextChar (cursor : Cursor) : Except Fault (Char × Cursor) := do
  let c ← charAt bytes cursor.current
  return (c, { cursor with current := cursor.current + 1 })

/-- The next character, and the null character at the end. -/
def peekChar (cursor : Cursor) : Except Fault Char :=
  if cursor.isEnd bytes then .ok '\x00' else charAt bytes cursor.current

def peekNextChar (cursor : Cursor) : Except Fault Char :=
  if bytes.length ≤ cursor.current + 1 then .ok '\x00' else charAt bytes (cursor.current + 1)

/-- The cursor behind the expected character, if that one is next. -/
def matchNext (expected : Char) (cursor : Cursor) : Except Fault (Option Cursor) :=
  if cursor.isEnd bytes then .ok none
  else do
    let c ← charAt bytes cursor.current
    return if c = expected then some { cursor with current := cursor.current + 1 } else none

def countLine (c : Char) (cursor : Cursor) : Except Fault Cursor :=
  if c = '\n' then
    if cursor.line.toNat < 4294967295 then .ok { cursor with line := cursor.line + 1 }
    else .error .lastLine
  else .ok cursor

/-- Read a character. -/
def pass (point : Point) (cursor : Cursor) : Except Fault Motion := do
  let (_, cursor) ← nextChar bytes cursor
  return .goesOn point cursor

/-- Read a character where lines may end. -/
def passCounting (point : Point) (cursor : Cursor) : Except Fault Motion := do
  let (c, cursor) ← nextChar bytes cursor
  let cursor ← countLine c cursor
  return .goesOn point cursor

/-- The text from byte `start` to byte `stop`. -/
def slice (start stop : Nat) : Except Fault (List Char) :=
  if start ≤ stop ∧ Utf8.atBoundary bytes start ∧ Utf8.atBoundary bytes stop then
    match Utf8.decode ((bytes.take stop).drop start) with
    | .ok text => .ok text
    | .error _ => .error (.brokenSlice start stop)
  else .error (.brokenSlice start stop)

def lexeme (cursor : Cursor) : Except Fault (List Char) := slice bytes cursor.start cursor.current

end Reads

section Motions

variable {m : Type → Type} [Monad m] (record : Log.Event → m Unit)

def fail (cause : LexicalError.Cause) (cursor : Cursor) : m Motion := do
  let error : LexicalError := ⟨cursor.line, cause⟩
  record (.lexicalError error)
  return .delivers (some (.error error)) cursor

variable [MonadLiftT (Except Fault) m] (bytes : List UInt8)

def token (kind : TokenKind) (literal : Literal) (cursor : Cursor) : m Motion := do
  let text ← lexeme bytes cursor
  let token : Token := ⟨kind, String.ofList text, literal, cursor.line⟩
  record (.scannedToken token)
  return .delivers (some (.token token)) cursor

def number (cursor : Cursor) : m Motion := do
  let text ← lexeme bytes cursor
  if isNumeral text then
    token record bytes .number (.number (Decimal.ofNumeral text).toBinary64) cursor
  else fail record (.invalidNumber (String.ofList text)) cursor

def word (cursor : Cursor) : m Motion := do
  let text ← lexeme bytes cursor
  match TokenKind.keyword? (String.ofList text) with
  | some keyword => token record bytes keyword .none cursor
  | none => token record bytes .identifier (.identifier (String.ofList text)) cursor

/-- Go over the whole character that begins with the byte just read. -/
def stray (c : Char) (cursor : Cursor) : m Motion := do
  let text ← slice bytes cursor.start bytes.length
  let character := text.head?.getD c
  fail record (.unexpectedCharacter character cursor.start)
    { cursor with current := cursor.start + character.utf8Size }

def slash (cursor : Cursor) : m Motion := do
  match ← matchNext bytes '/' cursor with
  | some cursor => return .goesOn .lineComment cursor
  | none =>
    match ← matchNext bytes '*' cursor with
    | some cursor => return .goesOn .blockComment cursor
    | none => token record bytes .slash .none cursor

/-- Choose by the character just read. -/
def dispatch (c : Char) (cursor : Cursor) : m Motion :=
  if isBlank c then do
    let cursor ← countLine c cursor
    return .goesOn .head cursor
  else match loneMark? c with
  | some kind => token record bytes kind .none cursor
  | none =>
    match extensibleMark? c with
    | some (kind, extended) => do
      match ← matchNext bytes '=' cursor with
      | some cursor => token record bytes extended .none cursor
      | none => token record bytes kind .none cursor
    | none =>
      if c = '/' then slash record bytes cursor
      else if c = '"' then return .goesOn .string cursor
      else if c.isDigit then return .goesOn .whole cursor
      else if isWordStart c then return .goesOn .word cursor
      else stray record bytes c cursor

/-- What a cursor does next. -/
def move : Point → Cursor → m Motion
  | .head, cursor =>
    if cursor.isEnd bytes then return .delivers none cursor
    else do
      let (c, cursor) ← nextChar bytes { cursor with start := cursor.current }
      return .goesOn (.dispatch c) cursor
  | .dispatch c, cursor => dispatch record bytes c cursor
  | .lineComment, cursor => do
    let c ← peekChar bytes cursor
    if c ≠ '\n' ∧ ¬ cursor.isEnd bytes then pass bytes .lineComment cursor
    else return .goesOn .head cursor
  | .blockComment, cursor => do
    -- A look moves nothing, so that the second one may be taken before it is known to be needed.
    let c ← peekChar bytes cursor
    let d ← peekNextChar bytes cursor
    if c = '*' ∧ d = '/' then return .goesOn .head { cursor with current := cursor.current + 2 }
    else if cursor.isEnd bytes then fail record .unterminatedComment cursor
    else passCounting bytes .blockComment cursor
  | .string, cursor => do
    let c ← peekChar bytes cursor
    if c ≠ '"' ∧ ¬ cursor.isEnd bytes then passCounting bytes .string cursor
    else if cursor.isEnd bytes then fail record .unterminatedString cursor
    else
      let (_, cursor) ← nextChar bytes cursor
      let text ← slice bytes (cursor.start + 1) (cursor.current - 1)
      token record bytes .string (.string (String.ofList text)) cursor
  | .whole, cursor => do
    let c ← peekChar bytes cursor
    let d ← peekNextChar bytes cursor
    if c.isDigit then pass bytes .whole cursor
    else if c = '.' ∧ d.isDigit then pass bytes .decimals cursor
    else number record bytes cursor
  | .decimals, cursor => do
    let c ← peekChar bytes cursor
    if c.isDigit then pass bytes .decimals cursor
    else number record bytes cursor
  | .word, cursor => do
    let c ← peekChar bytes cursor
    if isWordPart c then pass bytes .word cursor
    else word record bytes cursor

end Motions

/-- No record is kept. -/
def silent (_ : Log.Event) : Except Fault Unit := .ok ()

/-- What a cursor does next, without records. -/
def step (bytes : List UInt8) (point : Point) (cursor : Cursor) : Except Fault Motion :=
  move silent bytes point cursor

end Cursor

/-- Steps that may fail and that leave records behind those that are there. -/
abbrev Recorder := StateT (List Log.Event) (Except Cursor.Fault)

def Recorder.record (event : Log.Event) : Recorder Unit := modify (· ++ [event])

/-- What a recording cursor does next. -/
def Cursor.recordStep (bytes : List UInt8) (point : Point) (cursor : Cursor) : Recorder Motion :=
  move Recorder.record bytes point cursor

end Lox
