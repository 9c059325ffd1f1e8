import Lox.Expr
import Lox.Result

namespace Lox.Expr

/-- A stack of expressions, its top first. -/
abbrev Stack := List Expr

/-- One step of building. Tokens are named by their position among the results of a scan. -/
inductive Instruction where
  /-- Push the value of a token. -/
  | literal (index : Nat)
  | value (value : Value)
  /-- Wrap the top with one operator, several times. -/
  | unary (index times : Nat)
  | group (times : Nat)
  /-- Put an operator between the two topmost expressions; the top is its right operand. -/
  | binary (index : Nat)
  | duplicate
  | drop
  | swap
  | compare
deriving DecidableEq, Repr

/-- Why an instruction is refused. -/
inductive Refusal where
  | noToken
  | notAToken
  | noValue
  | underflow
deriving DecidableEq, Repr

def tokenAt (results : List Result) (index : Nat) : Except Refusal Token :=
  match results[index]? with
  | none => .error .noToken
  | some (.error _) => .error .notAToken
  | some (.token token) => .ok token

/-- Wrap an expression several times. -/
def wrap (wrapper : Expr → Expr) : Nat → Expr → Expr
  | 0, expr => expr
  | times + 1, expr => wrap wrapper times (wrapper expr)

/-- Wrap the top of a stack. Wrapping no time at all asks nothing of the stack. -/
def Stack.wrapTop (wrapper : Expr → Expr) (times : Nat) : Stack → Except Refusal Stack
  | [] => if times = 0 then .ok [] else .error .underflow
  | top :: below => .ok (wrap wrapper times top :: below)

/-- The stack after an instruction, and for a comparison its answer. A token is looked at before
the stack is. -/
def Stack.perform (results : List Result) (stack : Stack) :
    Instruction → Except Refusal (Stack × Option Bool)
  | .literal index => do
    let token ← tokenAt results index
    match Value.ofToken? token with
    | some value => return (.literal value :: stack, none)
    | none => .error .noValue
  | .value value => return (.literal value :: stack, none)
  | .unary index times => do
    let operator ← tokenAt results index
    return (← stack.wrapTop (.unary operator) times, none)
  | .group times => return (← stack.wrapTop .grouping times, none)
  | .binary index => do
    let operator ← tokenAt results index
    match stack with
    | right :: left :: below => return (.binary left operator right :: below, none)
    | _ => .error .underflow
  | .duplicate =>
    match stack with
    | top :: below => return (top :: top :: below, none)
    | _ => .error .underflow
  | .drop =>
    match stack with
    | _ :: below => return (below, none)
    | _ => .error .underflow
  | .swap =>
    match stack with
    | top :: second :: below => return (second :: top :: below, none)
    | _ => .error .underflow
  | .compare =>
    match stack with
    | top :: second :: _ => return (stack, some (second == top))
    | _ => .error .underflow

end Lox.Expr
