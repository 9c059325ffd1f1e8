import Lox.Proofs.NearestPattern

namespace Lox

namespace Binary64

open Nat (pow_eq)

/-- The rational number that a finite double is. -/
def value (x : Binary64) : ℚ :=
  if x.isNegative then -(x.units / 2 ^ 1074) else x.units / 2 ^ 1074

/-- The double that a number without a sign is rounded to: of the finite doubles none is nearer, and
the significand is even where another one is as near. Numbers from halfway between the largest
finite double and `2 ^ 1024` are rounded to infinity. -/
structure IsRoundingOf (q : ℚ) (x : Binary64) : Prop where
  unsigned : x.isNegative = false
  number : x.isNaN = false
  infinite : x.isFinite = false ↔ 2 ^ 1024 - 2 ^ 970 ≤ q
  nearest : x.isFinite → ∀ y : Binary64, y.isFinite → |q - x.value| ≤ |q - y.value|
  even : x.isFinite → ∀ y : Binary64, y.isFinite → y.value ≠ x.value →
    |q - y.value| = |q - x.value| → Even x.significand

variable {x y : Binary64} {q : ℚ}

theorem magnitude_of_unsigned (unsigned : x.isNegative = false) : x.magnitude = x.bits.toNat := by
  rw [← toNat_bits_abs, abs_eq_self unsigned]

private theorem even_significand_iff (x : Binary64) : Even x.significand ↔ Even x.magnitude := by
  rcases x.significand_cases with ⟨-, -, same⟩ | ⟨-, -, same⟩
  · rw [same]
  · have carried : Even (x.exponent * 2 ^ 52) := Even.mul_left (by decide) _
    rw [same, Nat.even_add, iff_true_left carried]

/-- How far a number is from a double without a sign, in units. -/
private theorem abs_sub_value (unsigned : x.isNegative = false) (q : ℚ) :
    |q - x.value| = |q * 2 ^ 1074 - unitsAt x.magnitude| / 2 ^ 1074 := by
  have positive : (0 : ℚ) < 2 ^ 1074 := pow_pos two_pos _
  rw [value, if_neg (by simp [unsigned]), units_eq]
  generalize (2 : ℚ) ^ 1074 = scale at *
  rw [← abs_of_pos positive, ← abs_div, abs_of_pos positive, sub_div,
    mul_div_cancel_right₀ _ positive.ne']

/-- How far a number without a sign is from any double is no less than from the magnitude. -/
private theorem abs_sub_magnitude_le (nonnegative : 0 ≤ q) (y : Binary64) :
    |q * 2 ^ 1074 - unitsAt y.magnitude| / 2 ^ 1074 ≤ |q - y.value| := by
  cases sign : y.isNegative with
  | false => exact (abs_sub_value sign q).ge
  | true =>
    have positive : (0 : ℚ) < 2 ^ 1074 := pow_pos two_pos _
    rw [value, if_pos sign, units_eq]
    generalize (2 : ℚ) ^ 1074 = scale at *
    have units : (0 : ℚ) ≤ unitsAt y.magnitude := Nat.cast_nonneg _
    have sum : |q - -(unitsAt y.magnitude / scale : ℚ)| =
        (q * scale + unitsAt y.magnitude) / scale := by
      rw [sub_neg_eq_add, abs_of_nonneg (by positivity)]
      field_simp
    rw [sum, div_le_div_iff_of_pos_right positive, abs_le]
    have product : 0 ≤ q * scale := by positivity
    constructor <;> linarith

section Patterns

variable {pattern : ℕ} (bounded : pattern ≤ infinityPattern)

include bounded

private theorem toNat_bits_ofNat : (UInt64.ofNat pattern).toNat = pattern := by
  have small : pattern < 2 ^ 64 := bounded.trans_lt (by decide)
  rw [UInt64.toNat_ofNat', Nat.mod_eq_of_lt small]

private theorem isNegative_ofNat : isNegative ⟨UInt64.ofNat pattern⟩ = false := by
  have small : pattern < 2 ^ 63 := bounded.trans_lt (by decide)
  rw [isNegative, pow_eq, toNat_bits_ofNat bounded, Nat.div_eq_of_lt small]
  rfl

private theorem magnitude_ofNat : magnitude ⟨UInt64.ofNat pattern⟩ = pattern := by
  rw [magnitude_of_unsigned (isNegative_ofNat bounded), toNat_bits_ofNat bounded]

private theorem isNaN_ofNat : isNaN ⟨UInt64.ofNat pattern⟩ = false := by
  simp [isNaN, magnitude_ofNat bounded, bounded]

private theorem isFinite_ofNat_iff :
    isFinite ⟨UInt64.ofNat pattern⟩ ↔ pattern < infinityPattern := by
  simp [isFinite, magnitude_ofNat bounded]

end Patterns

theorem isNegative_nearest (numerator denominator : ℕ) :
    (nearest numerator denominator).isNegative = false :=
  isNegative_ofNat (Nat.min_le_right _ _)

theorem isNaN_nearest (numerator denominator : ℕ) :
    (nearest numerator denominator).isNaN = false :=
  isNaN_ofNat (Nat.min_le_right _ _)

/-- A tie with a double of the same magnitude is one with its negative, and then there is nothing to
round. -/
private theorem value_eq_of_tie (nonnegative : 0 ≤ q) (unsigned : x.isNegative = false)
    (same : y.magnitude = x.magnitude) (tie : |q - y.value| = |q - x.value|)
    (least : |q - x.value| ≤ q) : y.value = x.value := by
  cases sign : y.isNegative with
  | false => rw [value, value, if_neg (by simp [sign]), if_neg (by simp [unsigned]), units_eq,
      units_eq, same]
  | true =>
    have positive : 0 ≤ x.value := by
      rw [value, if_neg (by simp [unsigned])]
      positivity
    have opposite : y.value = -x.value := by
      rw [value, value, if_pos sign, if_neg (by simp [unsigned]), units_eq, units_eq, same]
    rw [opposite, sub_neg_eq_add, abs_of_nonneg (by linarith)] at tie
    linarith

/-- A double with the nearest pattern is nearest to a number without a sign. -/
private theorem abs_sub_value_le (unsigned : x.isNegative = false) (nonnegative : 0 ≤ q)
    (near : IsNearest (fun p => (unitsAt p : ℚ)) Set.univ (q * 2 ^ 1074) x.magnitude)
    (y : Binary64) : |q - x.value| ≤ |q - y.value| := by
  have scale : (0 : ℚ) < 2 ^ 1074 := pow_pos two_pos _
  refine le_trans ?_ (abs_sub_magnitude_le nonnegative y)
  rw [abs_sub_value unsigned, div_le_div_iff_of_pos_right scale]
  exact near.nearest y.magnitude (Set.mem_univ _)

private theorem even_of_tie (unsigned : x.isNegative = false) (nonnegative : 0 ≤ q)
    (near : IsNearest (fun p => (unitsAt p : ℚ)) Set.univ (q * 2 ^ 1074) x.magnitude)
    (other : y.value ≠ x.value) (tie : |q - y.value| = |q - x.value|) : Even x.significand := by
  have scale : (0 : ℚ) < 2 ^ 1074 := pow_pos two_pos _
  have least := abs_sub_value_le unsigned nonnegative near
  by_cases same : y.magnitude = x.magnitude
  · have zero : value ⟨0⟩ = 0 := by
      have none : units ⟨0⟩ = 0 := by decide
      simp [value, none]
    have leastZero := least ⟨0⟩
    rw [zero, sub_zero, abs_of_nonneg nonnegative] at leastZero
    exact absurd (value_eq_of_tie nonnegative unsigned same tie leastZero) other
  · have farther := abs_sub_magnitude_le nonnegative y
    rw [tie, abs_sub_value unsigned, div_le_div_iff_of_pos_right scale] at farther
    have nearer := near.nearest y.magnitude (Set.mem_univ _)
    exact x.even_significand_iff.mpr
      (near.even y.magnitude (Set.mem_univ _) same (le_antisymm farther nearer))

private theorem isRoundingOf_nearest {denominator : ℕ} (numerator : ℕ)
    (positive : 0 < denominator) :
    IsRoundingOf (numerator / denominator) (nearest numerator denominator) := by
  have nonnegative : (0 : ℚ) ≤ numerator / denominator := by positivity
  obtain ⟨pattern, same, near⟩ := exists_isNearest numerator positive
  have bounded : min pattern infinityPattern ≤ infinityPattern := Nat.min_le_right _ _
  have unsigned := isNegative_ofNat bounded
  have finite_iff := isFinite_ofNat_iff bounded
  rw [same]
  generalize (numerator : ℚ) / denominator = q at *
  have here : isFinite ⟨UInt64.ofNat (min pattern infinityPattern)⟩ →
      IsNearest (fun p => (unitsAt p : ℚ)) Set.univ (q * 2 ^ 1074)
        (magnitude ⟨UInt64.ofNat (min pattern infinityPattern)⟩) := by
    intro finite
    have inside := finite_iff.mp finite
    rw [magnitude_ofNat bounded, Nat.min_eq_left (by omega)]
    exact near
  have infinite : isFinite ⟨UInt64.ofNat (min pattern infinityPattern)⟩ = false ↔
      2 ^ 1024 - 2 ^ 970 ≤ q := by
    have odd : ¬ Even (infinityPattern - 1) := by decide
    have behind := near.lt_iff strictMono_units odd
    have next : infinityPattern - 1 + 1 = infinityPattern := rfl
    rw [next, middle_le_iff] at behind
    rw [← behind, ← Bool.not_eq_true, finite_iff]
    have positive : 0 < infinityPattern := by decide
    omega
  exact ⟨unsigned, isNaN_ofNat bounded, infinite,
    fun finite y _ => abs_sub_value_le unsigned nonnegative (here finite) y,
    fun finite y _ other tie => even_of_tie unsigned nonnegative (here finite) other tie⟩

private theorem magnitude_eq_of_value (unsigned : x.isNegative = false)
    (unsigned' : y.isNegative = false) (same : x.value = y.value) : x.magnitude = y.magnitude := by
  have scale : (0 : ℚ) < 2 ^ 1074 := pow_pos two_pos _
  rw [value, value, if_neg (by simp [unsigned]), if_neg (by simp [unsigned']),
    div_left_inj' scale.ne', Nat.cast_inj, units_eq, units_eq] at same
  exact unitsAt_strictMono.injective same

private theorem eq_of_magnitude (unsigned : x.isNegative = false) (unsigned' : y.isNegative = false)
    (same : x.magnitude = y.magnitude) : x = y := by
  rw [magnitude_of_unsigned unsigned, magnitude_of_unsigned unsigned'] at same
  exact eq_of_toNat_bits same

namespace IsRoundingOf

private theorem isNearest (rounding : IsRoundingOf q x) (finite : x.isFinite) :
    IsNearest (fun p => (unitsAt p : ℚ)) (Set.Iio infinityPattern) (q * 2 ^ 1074) x.magnitude := by
  have scale : (0 : ℚ) < 2 ^ 1074 := pow_pos two_pos _
  constructor
  · intro j inside
    have bounded : j ≤ infinityPattern := Nat.le_of_lt inside
    have nearer := rounding.nearest finite _ ((isFinite_ofNat_iff bounded).mpr inside)
    rwa [abs_sub_value rounding.unsigned, abs_sub_value (isNegative_ofNat bounded),
      div_le_div_iff_of_pos_right scale, magnitude_ofNat bounded] at nearer
  · intro j inside other tie
    have bounded : j ≤ infinityPattern := Nat.le_of_lt inside
    have apart : value ⟨UInt64.ofNat j⟩ ≠ x.value := by
      intro same
      have same' := magnitude_eq_of_value (isNegative_ofNat bounded) rounding.unsigned same
      exact other ((magnitude_ofNat bounded).symm.trans same')
    refine x.even_significand_iff.mp
      (rounding.even finite _ ((isFinite_ofNat_iff bounded).mpr inside) apart ?_)
    rw [abs_sub_value rounding.unsigned, abs_sub_value (isNegative_ofNat bounded),
      magnitude_ofNat bounded, tie]

theorem unique (rounding : IsRoundingOf q x) (rounding' : IsRoundingOf q y) : x = y := by
  refine eq_of_magnitude rounding.unsigned rounding'.unsigned ?_
  have finite_iff : x.isFinite = false ↔ y.isFinite = false :=
    rounding.infinite.trans rounding'.infinite.symm
  cases finite : x.isFinite with
  | false =>
    have number := rounding.number
    have number' := rounding'.number
    have infinite' := finite_iff.mp finite
    simp only [isNaN, isFinite, decide_eq_false_iff_not] at number number' finite infinite'
    omega
  | true =>
    have finite' : y.isFinite := by simpa [finite] using finite_iff
    exact IsNearest.unique strictMono_units (of_decide_eq_true finite) (of_decide_eq_true finite')
      (rounding.isNearest finite) (rounding'.isNearest finite')

end IsRoundingOf

/-- A rational number without a sign is read as the double that it is rounded to, and that is the
only one. -/
theorem isRoundingOf_iff {denominator : ℕ} (numerator : ℕ) (positive : 0 < denominator) :
    IsRoundingOf (numerator / denominator) x ↔ x = nearest numerator denominator := by
  constructor
  · intro rounding
    exact rounding.unique (isRoundingOf_nearest numerator positive)
  · rintro rfl
    exact isRoundingOf_nearest numerator positive

end Binary64

end Lox
