/-!
UTF-8. A byte sequence falls apart into well-formed characters and maximal ill-formed parts; strict
decoding stops at the first ill-formed part, lossy decoding puts a replacement character for each.
-/

namespace Lox.Utf8

/-- The number of bytes that encode a text. -/
def size (text : List Char) : Nat := text.foldl (fun bytes c => bytes + c.utf8Size) 0

def encode (text : List Char) : List UInt8 := text.flatMap String.utf8EncodeChar

/-- What a lead byte announces: how many bytes follow, the range of the first of them (later ones
are in 0x80 to 0xBF), and the bits that the lead byte itself contributes. -/
structure Lead where
  following : Nat
  low : UInt8
  high : UInt8
  payload : Nat

/-- The lead bytes of well-formed sequences. The narrowed ranges exclude overlong forms, surrogates
and numbers above 0x10FFFF. -/
def lead? (byte : UInt8) : Option Lead :=
  let value := byte.toNat
  if value < 0x80 then some ⟨0, 0x80, 0xBF, value⟩
  else if value < 0xC2 then none
  else if value < 0xE0 then some ⟨1, 0x80, 0xBF, value - 0xC0⟩
  else if value = 0xE0 then some ⟨2, 0xA0, 0xBF, 0⟩
  else if value = 0xED then some ⟨2, 0x80, 0x9F, 0xD⟩
  else if value < 0xF0 then some ⟨2, 0x80, 0xBF, value - 0xE0⟩
  else if value = 0xF0 then some ⟨3, 0x90, 0xBF, 0⟩
  else if value < 0xF4 then some ⟨3, 0x80, 0xBF, value - 0xF0⟩
  else if value = 0xF4 then some ⟨3, 0x80, 0x8F, 4⟩
  else none

/-- The beginning of a byte sequence: a character, an ill-formed part, or a character that the end
of the sequence cuts off. Each carries the number of its bytes behind the first one. -/
inductive Piece where
  | character (char : Char) (more : Nat)
  | illFormed (more : Nat)
  | cutOff (more : Nat)
deriving DecidableEq, Repr

def Piece.more : Piece → Nat
  | character _ more | illFormed more | cutOff more => more

/-- Read the bytes that a lead byte announced, `seen` of them read so far. -/
def follow : Nat → UInt8 → UInt8 → Nat → Nat → List UInt8 → Piece
  | 0, _, _, payload, seen, _ => .character (Char.ofNat payload) seen
  | _ + 1, _, _, _, seen, [] => .cutOff seen
  | owed + 1, low, high, payload, seen, byte :: bytes =>
    if low ≤ byte ∧ byte ≤ high then
      follow owed 0x80 0xBF (64 * payload + byte.toNat % 64) (seen + 1) bytes
    else .illFormed seen

def firstPiece (byte : UInt8) (bytes : List UInt8) : Piece :=
  match lead? byte with
  | some lead => follow lead.following lead.low lead.high lead.payload 0 bytes
  | none => .illFormed 0

/-- Where a byte sequence stops being well-formed: the length of its longest well-formed part, and
the length of the ill-formed part there, unless the sequence ends inside a character. -/
structure Fault where
  validUpTo : Nat
  length : Option Nat
deriving DecidableEq, Repr

/-- Decode on from `valid` bytes, whose text is `text` in reverse. -/
def decodeFrom (valid : Nat) (text : List Char) : List UInt8 → Except Fault (List Char)
  | [] => .ok text.reverse
  | byte :: bytes =>
    match firstPiece byte bytes with
    | .character char more => decodeFrom (valid + 1 + more) (char :: text) (bytes.drop more)
    | .illFormed more => .error ⟨valid, some (1 + more)⟩
    | .cutOff _ => .error ⟨valid, none⟩
termination_by bytes => bytes.length

/-- The text that a well-formed byte sequence encodes. -/
def decode (bytes : List UInt8) : Except Fault (List Char) := decodeFrom 0 [] bytes

/-- Decode on behind `text`, which is held in reverse. -/
def decodeLossyFrom (text : List Char) : List UInt8 → List Char
  | [] => text.reverse
  | byte :: bytes =>
    let piece := firstPiece byte bytes
    let char := match piece with
      | .character char _ => char
      | _ => '\uFFFD'
    decodeLossyFrom (char :: text) (bytes.drop piece.more)
termination_by bytes => bytes.length

/-- Decode with one replacement character for each maximal ill-formed part. -/
def decodeLossy (bytes : List UInt8) : List Char := decodeLossyFrom [] bytes

/-- The bytes that go on with a character. -/
def isContinuation (byte : UInt8) : Bool := 0x80 ≤ byte.toNat && byte.toNat < 0xC0

/-- A boundary as it is told from the bytes: the byte there is the first one of a character, or
there is none any more. -/
def atBoundary (bytes : List UInt8) (index : Nat) : Bool :=
  match bytes[index]? with
  | some byte => !isContinuation byte
  | none => index == bytes.length

end Lox.Utf8
