import Lox.Token

namespace Lox

inductive Value where
  | nil
  | bool (value : Bool)
  | string (text : String)
  | number (value : Binary64)
deriving DecidableEq, Repr

namespace Value

def text : Value → String
  | nil => "nil"
  | bool true => "true"
  | bool false => "false"
  | string text => text
  | number value => value.text

/-- The value that a token denotes. Numbers and strings denote their literal, the words `nil`,
`true` and `false` a value of their own, and no other token denotes one. -/
def ofToken? (token : Token) : Option Value :=
  match token.kind, token.literal with
  | .number, .number value => some (number value)
  | .string, .string text => some (string text)
  | .true, _ => some (bool true)
  | .false, _ => some (bool false)
  | .nil, _ => some nil
  | _, _ => none

/-- Values of one form are compared by content, numbers as IEEE doubles. -/
instance : BEq Value where
  beq
    | nil, nil => true
    | bool a, bool b => decide (a = b)
    | string a, string b => decide (a = b)
    | number a, number b => a == b
    | _, _ => false

end Value

end Lox
