import Lox.Text.Lines

namespace Lox.Conformance

/-- A comment in a source may say what its listing writes: a line of the standard output, or one of
the error output. -/
inductive Tag where
  | expect
  | error
deriving DecidableEq, Repr

/-- What an annotation begins with. -/
def Tag.marker : Tag → List Char
  | .expect => "// expect: ".toList
  | .error => "// error: ".toList

/-- The text behind the first occurrence of `marker`. -/
def behind? (marker : List Char) : List Char → Option (List Char)
  | [] => if marker = [] then some [] else none
  | c :: rest =>
    if marker.isPrefixOf (c :: rest) then some ((c :: rest).drop marker.length)
    else behind? marker rest

/-- The annotations of one tag, in order, without the white space at their ends. A line has at most
one of each tag. -/
def annotations (tag : Tag) (contents : List Char) : List String :=
  (lines contents).filterMap fun line =>
    (behind? tag.marker line).map fun text => String.ofList (trimEnd text)

end Lox.Conformance
