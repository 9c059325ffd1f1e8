import Lox.Scanner

namespace Lox

/-- The name under which an error is counted. -/
def LexicalError.Cause.name : LexicalError.Cause → String
  | .unexpectedCharacter .. => "UnexpectedCharacter"
  | .unterminatedString => "UnterminatedString"
  | .unterminatedComment => "UnterminatedComment"
  | .invalidNumber _ => "InvalidNumber"

def Result.name : Result → String
  | token t => t.kind.name
  | error e => e.cause.name

structure Summary where
  total : Nat := 0
  /-- The names that occur, in the order of their first occurrence, each with its count. -/
  counts : List (String × Nat) := []
  /-- The bytes of all lexemes together. -/
  lexemeBytes : Nat := 0
  lineSum : Nat := 0
  last : Option Result := none
deriving Repr

namespace Summary

/-- Count one more occurrence of `name`. -/
def countUp (name : String) : List (String × Nat) → List (String × Nat)
  | [] => [(name, 1)]
  | (other, count) :: counts =>
    if other = name then (other, count + 1) :: counts else (other, count) :: countUp name counts

def add (summary : Summary) (result : Result) : Summary where
  total := summary.total + 1
  counts := countUp result.name summary.counts
  lexemeBytes := summary.lexemeBytes + (result.token?.map (·.lexeme.utf8ByteSize)).getD 0
  lineSum := summary.lineSum + result.line.toNat
  last := some result

def ofResults (results : List Result) : Summary := results.foldl add {}

end Summary

end Lox
