import Lox.Number.Binary64
import Lox.Number.Decimal

/-!
The text of a double. Of the decimals that read back as the same double it has the fewest
significant digits, and of those it is the nearest one. Every finite double is a decimal itself, so
each decimal grid is searched in exact natural-number arithmetic.
-/

namespace Lox

/-- The double nearest to a decimal. -/
def Decimal.toBinary64 (x : Decimal) : Binary64 :=
  Binary64.nearest x.digits (Nat.pow 10 x.places)

namespace Binary64

/-- The double with the sign bit cleared. -/
def abs (x : Binary64) : Binary64 := ⟨UInt64.ofNat x.magnitude⟩

/-- The exact value of a finite double's magnitude: a power of two below the point is a power of
five with that many decimal places. -/
def exact (x : Binary64) : Decimal :=
  let places := 1074 - x.exponent
  { digits := x.significand * Nat.pow 2 (x.exponent - 1074) * Nat.pow 5 places
    places := places }

/-- The nearer of the two neighbours of `value` among the multiples of `step` that satisfy `good`.
A value halfway between two good neighbours goes to the upper one. -/
def neighbour? (good : Nat → Bool) (value step : Nat) : Option Nat :=
  let below := value / step * step
  let above := below + step
  match good below, good above with
  | true, true => if value - below < above - value then some below else some above
  | true, false => some below
  | false, true => some above
  | false, false => none

/-- The greatest number of significant digits that telling two doubles apart can take. -/
def maximalDigits : Nat := 17

/-- The shortest decimal that reads back as the magnitude of `x`. -/
def shortest (x : Binary64) : Decimal :=
  let ⟨value, places⟩ := x.exact
  let length := (Nat.toDigits 10 value).length
  let readsBack (digits : Nat) : Bool :=
    (Decimal.mk digits places).toBinary64.bits.toNat == x.magnitude
  let found := (List.range maximalDigits).findSome? fun fewer =>
    neighbour? readsBack value (Nat.pow 10 (length - (fewer + 1)))
  { digits := found.getD value
    places := places }

/-- What is printed for a double. -/
def text (x : Binary64) : String :=
  if x.isNaN then "NaN"
  else
    let magnitude := if x.isFinite then String.ofList x.shortest.numeral else "inf"
    if x.isNegative then "-" ++ magnitude else magnitude

end Binary64

end Lox
