namespace Lox

/-- Why a unit of source text is no token. -/
inductive LexicalError.Cause where
  | unexpectedCharacter (character : Char) (offset : Nat)
  | unterminatedString
  | unterminatedComment
  | invalidNumber (text : String)
deriving DecidableEq, Repr

def LexicalError.Cause.message : LexicalError.Cause → String
  | .unexpectedCharacter character offset =>
    "Encountered unexpected character " ++ character.toString ++ " at position " ++ offset.repr
  | .unterminatedString => "Unterminated string"
  | .unterminatedComment => "Unterminated multi-line comment"
  | .invalidNumber text => "Invalid number literal: " ++ text

/-- A fault of the source text and the line on which it was noticed. -/
structure LexicalError where
  line : UInt32
  cause : LexicalError.Cause
deriving DecidableEq, Repr

def LexicalError.text (error : LexicalError) : String :=
  "[line " ++ error.line.toNat.repr ++ "] Error: " ++ error.cause.message

end Lox
