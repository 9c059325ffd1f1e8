import Lox.LexicalError
import Lox.Token

namespace Lox

/-- What a scan delivers for one unit: a token, or the error that stands in its place. -/
inductive Result where
  | token (token : Token)
  | error (error : LexicalError)
deriving DecidableEq, Repr

namespace Result

def line : Result → UInt32
  | token t => t.line
  | error e => e.line

def token? : Result → Option Token
  | token t => some t
  | error _ => none

def error? : Result → Option LexicalError
  | token _ => none
  | error e => some e

def isError (result : Result) : Bool := result.error?.isSome

/-- Tokens are compared with IEEE equality of numbers, errors field by field. -/
instance : BEq Result where
  beq
    | token a, token b => a == b
    | error a, error b => decide (a = b)
    | _, _ => false

end Result

end Lox
