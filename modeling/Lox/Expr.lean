import Lox.Value

namespace Lox

inductive Expr where
  | literal (value : Value)
  | grouping (inner : Expr)
  | unary (operator : Token) (operand : Expr)
  | binary (left : Expr) (operator : Token) (right : Expr)
deriving DecidableEq, Repr

namespace Expr

/-- Prefix form: an operator stands before its operands, in parentheses. -/
def text : Expr → String
  | literal value => value.text
  | grouping inner => "(group " ++ inner.text ++ ")"
  | unary operator operand => "(" ++ operator.lexeme ++ " " ++ operand.text ++ ")"
  | binary left operator right =>
    "(" ++ operator.lexeme ++ " " ++ left.text ++ " " ++ right.text ++ ")"

/-- Equal shape, equal operator tokens, and equal values as IEEE comparison has it. -/
def equal : Expr → Expr → Bool
  | literal a, literal b => a == b
  | grouping a, grouping b => equal a b
  | unary operatorA a, unary operatorB b => operatorA == operatorB && equal a b
  | binary leftA operatorA rightA, binary leftB operatorB rightB =>
    equal leftA leftB && operatorA == operatorB && equal rightA rightB
  | _, _ => false

instance : BEq Expr := ⟨equal⟩

end Expr

end Lox
