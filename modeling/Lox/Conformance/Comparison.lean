import Lox.Text.Lines

namespace Lox.Conformance

inductive Discrepancy where
  | different (expected actual : String)
  | unexpected (actual : String)
  | missing (expected : String)
deriving DecidableEq, Repr

def Discrepancy.text : Discrepancy → String
  | .different expected actual => "Expected: " ++ expected ++ ", Actual: " ++ actual
  | .unexpected actual => "Unexpected output: " ++ actual
  | .missing expected => "Expected, not found: " ++ expected

/-- The lines of a text as they are compared: without the white space at their ends. -/
def comparedLines (text : List Char) : List String :=
  (lines text).map fun line => String.ofList (trimEnd line)

/-- One discrepancy for each place where the lists differ or where one of them has ended. -/
def discrepancies : List String → List String → List Discrepancy
  | [], actual => actual.map .unexpected
  | expected, [] => expected.map .missing
  | want :: wanted, line :: actual =>
    if want = line then discrepancies wanted actual
    else .different want line :: discrepancies wanted actual

/-- The discrepancies between expected lines, which are taken as they are, and a text. -/
def compare (expected : List String) (actual : List Char) : List Discrepancy :=
  discrepancies expected (comparedLines actual)

end Lox.Conformance
