import Lox.Log.Directive

namespace Lox.Log

/-- Of the directives that cover a record the closest one decides whether it is shown. -/
abbrev Filter := List Directive

namespace Filter

/-- Show everything up to one level, whatever the target. -/
def ofLevel (level : Level) : Filter := [⟨none, none, none, level.verbosity⟩]

/-- Directives separated by commas. Empty ones are passed over, and without any directive only the
coarsest level is shown. -/
def parse? (text : String) : Option Filter := do
  let pieces := (text.splitOn ",").filter (· ≠ "")
  match ← pieces.mapM fun piece => Directive.parse? piece.toList with
  | [] => return ofLevel .error
  | directives => return directives

/-- Whether `other` describes at least as closely as `directive`. -/
def isCloser (directive other : Directive) : Bool :=
  let (length, field) := directive.closeness
  let (length', field') := other.closeness
  length < length' || (length == length' && decide (field ≤ field'))

/-- The directive that decides on an event: the closest that covers it, of equal ones the last. -/
def deciding? (filter : Filter) (event : Event) : Option Directive :=
  (filter.filter (·.covers event)).foldl (fun best directive =>
    match best with
    | some other => if isCloser other directive then some directive else some other
    | none => some directive) none

def admits (filter : Filter) (event : Event) : Bool :=
  match filter.deciding? event with
  | some directive => event.level.verbosity ≤ directive.threshold
  | none => false

end Filter

/-- The records of some results that a filter shows, in order. -/
def shown (filter : Filter) (results : List Result) : List Event :=
  (results.map Event.ofResult).filter filter.admits

end Lox.Log
