/-!
Doubles as bit patterns. Every finite double is a whole number of units of `2 ^ -1074`, so its
magnitude is the natural number `units`, and rounding to the nearest double is exact arithmetic on
natural numbers. `nearest` never goes through a machine float.
-/

namespace Lox

/-- An IEEE 754 double, held as its 64-bit pattern. -/
structure Binary64 where
  bits : UInt64
deriving DecidableEq, Repr, Inhabited

namespace Binary64

def isNegative (x : Binary64) : Bool := x.bits.toNat / Nat.pow 2 63 == 1

/-- The sign bit cleared: the pattern of the magnitude. -/
def magnitude (x : Binary64) : Nat := x.bits.toNat % Nat.pow 2 63

def biasedExponent (x : Binary64) : Nat := x.magnitude / Nat.pow 2 52

def fraction (x : Binary64) : Nat := x.magnitude % Nat.pow 2 52

/-- The pattern of positive infinity. Larger magnitudes are not numbers. -/
def infinityPattern : Nat := 2047 * Nat.pow 2 52

def isFinite (x : Binary64) : Bool := x.magnitude < infinityPattern

def isNaN (x : Binary64) : Bool := infinityPattern < x.magnitude

def isZero (x : Binary64) : Bool := x.magnitude == 0

/-- The fraction with the leading bit that normal doubles do not store. -/
def significand (x : Binary64) : Nat :=
  if x.biasedExponent = 0 then x.fraction else Nat.pow 2 52 + x.fraction

/-- The weight of the significand: a finite double is `significand * 2 ^ (exponent - 1074)`. -/
def exponent (x : Binary64) : Nat := x.biasedExponent - 1

/-- The magnitude of a finite double, counted in units of `2 ^ -1074`. -/
def units (x : Binary64) : Nat := x.significand * Nat.pow 2 x.exponent

/-- IEEE comparison: the two zeros are equal, and a NaN equals nothing. -/
instance : BEq Binary64 where
  beq x y := !x.isNaN && !y.isNaN && (x.bits.toNat == y.bits.toNat || (x.isZero && y.isZero))

/-- The natural number nearest to `numerator / denominator`; a half goes to the even neighbour. -/
def roundHalfEven (numerator denominator : Nat) : Nat :=
  let quotient := numerator / denominator
  let twice := 2 * (numerator % denominator)
  if twice < denominator ∨ (twice = denominator ∧ quotient % 2 = 0) then quotient
  else quotient + 1

/-- The double nearest to `numerator / denominator`, ties to even, with gradual underflow and with
infinity from halfway above the largest finite double. The significand is rounded on the grid of
`2 ^ (shift - 1074)`; a significand that rounds up to `2 ^ 53` carries into the exponent field. -/
def nearest (numerator denominator : Nat) : Binary64 :=
  let scaled := numerator * Nat.pow 2 1074
  let shift := (scaled / denominator).log2 - 52
  let significand := roundHalfEven scaled (denominator * Nat.pow 2 shift)
  ⟨UInt64.ofNat (min (shift * Nat.pow 2 52 + significand) infinityPattern)⟩

end Binary64

end Lox
