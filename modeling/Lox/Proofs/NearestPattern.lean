import Lox.Proofs.Numerals
import Mathlib.Algebra.Order.Field.Rat
import Mathlib.Data.Nat.Cast.Order.Field
import Mathlib.Order.Monotone.Basic
import Mathlib.Tactic.FieldSimp
import Mathlib.Tactic.Linarith

/-!
The nearest pattern. The doubles without a sign are an increasing sequence of rational numbers,
numbered by their patterns, and a significand that is rounded on its grid leads to the member of the
sequence that is nearest, or to the even one of two that are as near.
-/

namespace Lox

/-- No member is nearer to `t` than the one at `i`, and `i` is even where another one is as near. -/
structure IsNearest (f : ℕ → ℚ) (among : Set ℕ) (t : ℚ) (i : ℕ) : Prop where
  nearest : ∀ j ∈ among, |t - f i| ≤ |t - f j|
  even : ∀ j ∈ among, j ≠ i → |t - f j| = |t - f i| → Even i

namespace IsNearest

variable {f : ℕ → ℚ} {t : ℚ} {i j k : ℕ}

/-- Between two neighbours the other members lie behind one or the other. -/
private theorem distance_cases (increasing : StrictMono f) (least : f i ≤ t) (most : t ≤ f (i + 1))
    (j : ℕ) : (j ≤ i ∧ f j ≤ f i ∧ |t - f j| = t - f j) ∨
      (i + 1 ≤ j ∧ f (i + 1) ≤ f j ∧ |t - f j| = f j - t) := by
  rcases Nat.lt_or_ge i j with later | earlier
  · have far : f (i + 1) ≤ f j := increasing.monotone later
    rw [abs_sub_comm]
    exact .inr ⟨later, far, abs_of_nonneg (by linarith)⟩
  · have far : f j ≤ f i := increasing.monotone earlier
    exact .inl ⟨earlier, far, abs_of_nonneg (by linarith)⟩

/-- The lower neighbour is the nearest member up to the middle. -/
private theorem of_le_middle (increasing : StrictMono f) (least : f i ≤ t)
    (middle : 2 * t < f i + f (i + 1) ∨ 2 * t = f i + f (i + 1) ∧ Even i) :
    IsNearest f Set.univ t i := by
  have step : f i < f (i + 1) := increasing (Nat.lt_succ_self i)
  have low : 2 * t ≤ f i + f (i + 1) := middle.elim le_of_lt fun same => le_of_eq same.1
  have place := distance_cases increasing least (by linarith)
  have here : |t - f i| = t - f i := abs_of_nonneg (by linarith)
  constructor
  · intro j _
    rcases place j with ⟨-, far, distance⟩ | ⟨-, far, distance⟩ <;> linarith
  · intro j _ other tie
    rcases place j with ⟨earlier, -, distance⟩ | ⟨-, far, distance⟩
    · have apart : f j < f i := increasing (lt_of_le_of_ne earlier other)
      linarith
    · rcases middle with small | ⟨-, even⟩
      · linarith
      · exact even

/-- The upper neighbour is the nearest member from the middle on. -/
private theorem of_middle_le (increasing : StrictMono f) (most : t < f (i + 1))
    (middle : f i + f (i + 1) < 2 * t ∨ f i + f (i + 1) = 2 * t ∧ ¬ Even i) :
    IsNearest f Set.univ t (i + 1) := by
  have step : f i < f (i + 1) := increasing (Nat.lt_succ_self i)
  have high : f i + f (i + 1) ≤ 2 * t := middle.elim le_of_lt fun same => le_of_eq same.1
  have place := distance_cases increasing (by linarith) most.le
  have here : |t - f (i + 1)| = f (i + 1) - t := by
    rw [abs_sub_comm]
    exact abs_of_nonneg (by linarith)
  constructor
  · intro j _
    rcases place j with ⟨-, far, distance⟩ | ⟨-, far, distance⟩ <;> linarith
  · intro j _ other tie
    rcases place j with ⟨-, far, distance⟩ | ⟨later, -, distance⟩
    · rcases middle with large | ⟨-, odd⟩
      · linarith
      · exact Nat.even_add_one.mpr odd
    · have apart : f (i + 1) < f j := increasing (lt_of_le_of_ne later (Ne.symm other))
      linarith

/-- Which neighbour is the nearest member is decided by natural numbers: what `t` is over the lower
one, and how far the upper one is. -/
private theorem of_twice_le {rest step denominator : ℕ} (increasing : StrictMono f)
    (positive : 0 < denominator) (value : t = f i + rest / denominator)
    (next : f (i + 1) = f i + step / denominator)
    (middle : 2 * rest < step ∨ 2 * rest = step ∧ Even i) : IsNearest f Set.univ t i := by
  have positive' : (0 : ℚ) < denominator := Nat.cast_pos.mpr positive
  have aboveLower : (0 : ℚ) ≤ rest / denominator := by positivity
  refine of_le_middle increasing (by linarith) (middle.imp (fun small => ?_) (.imp_left ?_))
  · have small' : (2 * rest : ℚ) / denominator < step / denominator :=
      (div_lt_div_iff_of_pos_right positive').mpr (by exact_mod_cast small)
    rw [mul_div_assoc] at small'
    linarith
  · rintro rfl
    rw [value, next]
    push_cast
    ring

private theorem of_le_twice {rest step denominator : ℕ} (increasing : StrictMono f)
    (positive : 0 < denominator) (value : t = f i + rest / denominator)
    (next : f (i + 1) = f i + step / denominator) (less : rest < step)
    (middle : step < 2 * rest ∨ step = 2 * rest ∧ ¬ Even i) :
    IsNearest f Set.univ t (i + 1) := by
  have positive' : (0 : ℚ) < denominator := Nat.cast_pos.mpr positive
  have belowUpper : (rest : ℚ) / denominator < step / denominator :=
    (div_lt_div_iff_of_pos_right positive').mpr (Nat.cast_lt.mpr less)
  refine of_middle_le increasing (by linarith) (middle.imp (fun large => ?_) (.imp_left ?_))
  · have large' : (step : ℚ) / denominator < (2 * rest : ℚ) / denominator :=
      (div_lt_div_iff_of_pos_right positive').mpr (by exact_mod_cast large)
    rw [mul_div_assoc] at large'
    linarith
  · rintro rfl
    rw [value, next]
    push_cast
    ring

/-- Of two members that are as near as each other one is odd, or a nearer one lies between them. -/
theorem not_lt (increasing : StrictMono f) {bound : ℕ} (inside : j < bound)
    (near : IsNearest f (Set.Iio bound) t i) (near' : IsNearest f (Set.Iio bound) t j) :
    ¬ i < j := by
  intro before
  have step : f i < f j := increasing before
  have tie : |t - f i| = |t - f j| :=
    le_antisymm (near.nearest j inside) (near'.nearest i (before.trans inside))
  have middle : 2 * t = f i + f j := by
    rcases abs_eq_abs.mp tie with same | opposite <;> linarith
  by_cases next : j = i + 1
  · have even := near.even j inside (Nat.ne_of_gt before) tie.symm
    have even' := near'.even i (before.trans inside) (Nat.ne_of_lt before) tie
    rw [next, Nat.even_add_one] at even'
    exact even' even
  · have between : i + 1 < j := by omega
    have low : f i < f (i + 1) := increasing (Nat.lt_succ_self i)
    have high : f (i + 1) < f j := increasing between
    have closer := near.nearest (i + 1) (between.trans inside)
    rw [abs_of_nonneg (by linarith)] at closer
    rcases abs_cases (t - f (i + 1)) with ⟨same, -⟩ | ⟨same, -⟩ <;> linarith

theorem unique (increasing : StrictMono f) {bound : ℕ} (inside : i < bound) (inside' : j < bound)
    (near : IsNearest f (Set.Iio bound) t i) (near' : IsNearest f (Set.Iio bound) t j) : i = j :=
  Nat.le_antisymm (Nat.le_of_not_lt (near'.not_lt increasing inside near))
    (Nat.le_of_not_lt (near.not_lt increasing inside' near'))

/-- Behind an odd index the nearest member is found from the middle on. -/
theorem lt_iff (increasing : StrictMono f) (near : IsNearest f Set.univ t i) (odd : ¬ Even k) :
    k < i ↔ f k + f (k + 1) ≤ 2 * t := by
  have step : f k < f (k + 1) := increasing (Nat.lt_succ_self k)
  constructor
  · intro later
    by_contra small
    have far : f (k + 1) ≤ f i := increasing.monotone later
    have closer := near.nearest k (Set.mem_univ k)
    rw [abs_sub_comm, abs_of_nonneg (by linarith)] at closer
    rcases abs_cases (t - f k) with ⟨same, -⟩ | ⟨same, -⟩ <;> linarith
  · intro large
    by_contra earlier
    have far : f i ≤ f k := increasing.monotone (Nat.le_of_not_lt earlier)
    have closer := near.nearest (k + 1) (Set.mem_univ _)
    rw [abs_of_nonneg (by linarith)] at closer
    rcases abs_cases (t - f (k + 1)) with ⟨same, -⟩ | ⟨same, -⟩
    · linarith
    · have here : f i = f k := by linarith
      obtain rfl := increasing.injective here
      have tie : |t - f (i + 1)| = |t - f i| := by
        rw [same, abs_of_nonneg (by linarith)]
        linarith
      exact odd (near.even (i + 1) (Set.mem_univ _) (Nat.succ_ne_self i) tie)

end IsNearest

namespace Binary64

open Nat (pow_eq)

/-- The units that the pattern of a magnitude stands for. Infinity counts on behind the largest
finite double, as `2 ^ 1024`. -/
def unitsAt (pattern : ℕ) : ℕ :=
  if pattern < 2 ^ 52 then pattern
  else (2 ^ 52 + pattern % 2 ^ 52) * 2 ^ (pattern / 2 ^ 52 - 1)

theorem units_eq (x : Binary64) : x.units = unitsAt x.magnitude := by
  have subnormal : x.biasedExponent = 0 ↔ x.magnitude < 2 ^ 52 := by
    rw [biasedExponent, pow_eq]
    omega
  by_cases small : x.magnitude < 2 ^ 52
  · rw [unitsAt, if_pos small, units, significand, exponent, if_pos (subnormal.mpr small),
      subnormal.mpr small, fraction, pow_eq, pow_eq, Nat.mod_eq_of_lt small, Nat.zero_sub,
      Nat.pow_zero, Nat.mul_one]
  · rw [unitsAt, if_neg small, units, significand, exponent, if_neg (mt subnormal.mp small),
      fraction, biasedExponent]
    rfl

/-- A significand on the grid of its exponent, also one that carries into the exponent. -/
private theorem unitsAt_grid {exponent significand : ℕ}
    (least : exponent = 0 ∨ 2 ^ 52 ≤ significand) (most : significand ≤ 2 ^ 53) :
    unitsAt (exponent * 2 ^ 52 + significand) = significand * 2 ^ exponent := by
  rcases Nat.lt_or_ge significand (2 ^ 52) with subnormal | normal
  · obtain rfl : exponent = 0 := least.resolve_right (Nat.not_le_of_lt subnormal)
    rw [unitsAt, Nat.zero_mul, Nat.zero_add, if_pos subnormal, Nat.pow_zero, Nat.mul_one]
  · have large : ¬ exponent * 2 ^ 52 + significand < 2 ^ 52 := by omega
    rw [unitsAt, if_neg large]
    rcases Nat.lt_or_eq_of_le most with inside | rfl
    · have field : (exponent * 2 ^ 52 + significand) / 2 ^ 52 - 1 = exponent := by omega
      have stored : 2 ^ 52 + (exponent * 2 ^ 52 + significand) % 2 ^ 52 = significand := by omega
      rw [field, stored]
    · have field : (exponent * 2 ^ 52 + 2 ^ 53) / 2 ^ 52 - 1 = exponent + 1 := by omega
      have stored : 2 ^ 52 + (exponent * 2 ^ 52 + 2 ^ 53) % 2 ^ 52 = 2 ^ 52 := by omega
      rw [field, stored]
      ring

/-- Every pattern is that of a significand on a grid on which the next one stands as well. -/
private theorem exists_grid (pattern : ℕ) : ∃ exponent significand,
    pattern = exponent * 2 ^ 52 + significand ∧ (exponent = 0 ∨ 2 ^ 52 ≤ significand) ∧
      significand < 2 ^ 53 := by
  by_cases subnormal : pattern < 2 ^ 52
  · exact ⟨0, pattern, by omega, .inl rfl, by omega⟩
  · exact ⟨pattern / 2 ^ 52 - 1, 2 ^ 52 + pattern % 2 ^ 52, by omega, by omega, by omega⟩

theorem unitsAt_strictMono : StrictMono unitsAt := by
  refine strictMono_nat_of_lt_succ fun pattern => ?_
  obtain ⟨exponent, significand, rfl, least, most⟩ := exists_grid pattern
  have next : exponent = 0 ∨ 2 ^ 52 ≤ significand + 1 := least.imp_right Nat.le_succ_of_le
  rw [Nat.add_assoc, unitsAt_grid least most.le, unitsAt_grid next most]
  exact Nat.mul_lt_mul_of_pos_right (Nat.lt_succ_self significand) (Nat.pow_pos (by decide))

theorem strictMono_units : StrictMono fun p => (unitsAt p : ℚ) :=
  Nat.strictMono_cast.comp unitsAt_strictMono

/-- The middle between the largest finite double and infinity, in units. -/
theorem middle_le_iff (q : ℚ) : (unitsAt (infinityPattern - 1) : ℚ) + unitsAt infinityPattern ≤
    2 * (q * 2 ^ 1074) ↔ 2 ^ 1024 - 2 ^ 970 ≤ q := by
  have scaled (a c : ℕ) : ((2 ^ 54 - 1) * 2 ^ (1 + a + c) : ℚ) ≤ 2 * (q * 2 ^ c) ↔
      2 ^ (54 + a) - 2 ^ a ≤ q := by
    have positive : (0 : ℚ) < 2 * 2 ^ c := by positivity
    have left : ((2 ^ 54 - 1) * 2 ^ (1 + a + c) : ℚ) = (2 ^ (54 + a) - 2 ^ a) * (2 * 2 ^ c) := by
      ring
    have right : 2 * (q * 2 ^ c) = q * (2 * 2 ^ c) := by ring
    rw [left, right, mul_le_mul_iff_left₀ positive]
  have grid (exponent : ℕ) : (unitsAt (exponent * 2 ^ 52 + (2 ^ 53 - 1)) : ℚ) +
      unitsAt (exponent * 2 ^ 52 + 2 ^ 53) = (2 ^ 54 - 1) * 2 ^ exponent := by
    rw [unitsAt_grid (.inr (by decide)) (by decide), unitsAt_grid (.inr (by decide)) (by decide)]
    push_cast
    ring
  have sum := grid 2045
  have last : infinityPattern - 1 = 2045 * 2 ^ 52 + (2 ^ 53 - 1) := rfl
  have behind : infinityPattern = 2045 * 2 ^ 52 + 2 ^ 53 := rfl
  rw [last, behind, sum]
  exact scaled 970 1074

/-- The significand is rounded to one of the two on its grid that are next to it. -/
private theorem roundHalfEven_cases (numerator denominator : ℕ) :
    let below := numerator / denominator
    (roundHalfEven numerator denominator = below ∧
      (2 * (numerator % denominator) < denominator ∨
        2 * (numerator % denominator) = denominator ∧ Even below)) ∨
    (roundHalfEven numerator denominator = below + 1 ∧
      (denominator < 2 * (numerator % denominator) ∨
        denominator = 2 * (numerator % denominator) ∧ ¬ Even below)) := by
  simp only [roundHalfEven, Nat.even_iff]
  split <;> omega

/-- The grid that is rounded on: its significands have no more than 53 bits, and all of these
unless it is the finest one. -/
private theorem grid_bounds (units : ℕ) :
    (units.log2 - 52 = 0 ∨ 2 ^ 52 ≤ units / 2 ^ (units.log2 - 52)) ∧
    units / 2 ^ (units.log2 - 52) < 2 ^ 53 := by
  constructor
  · by_cases few : units.log2 ≤ 52
    · exact .inl (Nat.sub_eq_zero_of_le few)
    · right
      have nonzero : units ≠ 0 := by
        rintro rfl
        exact few (by simp)
      rw [Nat.le_div_iff_mul_le (Nat.pow_pos (by decide)), ← Nat.pow_add]
      have exponents : 52 + (units.log2 - 52) = units.log2 := by omega
      rw [exponents]
      exact Nat.log2_self_le nonzero
  · rw [Nat.div_lt_iff_lt_mul (Nat.pow_pos (by decide)), ← Nat.pow_add]
    have exponents : units.log2 + 1 ≤ 53 + (units.log2 - 52) := by omega
    exact Nat.lt_log2_self.trans_le (Nat.pow_le_pow_right (by decide) exponents)

/-- Rounding the significand on its grid gives the nearest of all patterns. -/
private theorem isNearest_roundHalfEven {numerator denominator shift : ℕ}
    (positive : 0 < denominator)
    (least : shift = 0 ∨ 2 ^ 52 ≤ numerator / (denominator * 2 ^ shift))
    (most : numerator / (denominator * 2 ^ shift) < 2 ^ 53) :
    IsNearest (fun p => (unitsAt p : ℚ)) Set.univ (numerator / denominator)
      (shift * 2 ^ 52 + roundHalfEven numerator (denominator * 2 ^ shift)) := by
  have cases := roundHalfEven_cases numerator (denominator * 2 ^ shift)
  have parts := Nat.div_add_mod numerator (denominator * 2 ^ shift)
  have remainder := Nat.mod_lt numerator (Nat.mul_pos positive (Nat.two_pow_pos shift))
  dsimp only at cases
  generalize roundHalfEven numerator (denominator * 2 ^ shift) = rounded at *
  generalize numerator / (denominator * 2 ^ shift) = below at *
  generalize numerator % (denominator * 2 ^ shift) = rest at *
  have positive' : (0 : ℚ) < denominator := Nat.cast_pos.mpr positive
  have here : (unitsAt (shift * 2 ^ 52 + below) : ℚ) = below * 2 ^ shift := by
    rw [unitsAt_grid least most.le]
    push_cast
    rfl
  have next : (unitsAt (shift * 2 ^ 52 + below + 1) : ℚ) =
      unitsAt (shift * 2 ^ 52 + below) + (denominator * 2 ^ shift : ℕ) / denominator := by
    rw [here, Nat.add_assoc, unitsAt_grid (least.imp_right Nat.le_succ_of_le) most]
    push_cast
    field_simp
  have value : (numerator : ℚ) / denominator =
      unitsAt (shift * 2 ^ 52 + below) + rest / denominator := by
    rw [here, ← parts]
    push_cast
    field_simp
  have even : Even (shift * 2 ^ 52 + below) ↔ Even below := by
    have carried : Even (shift * 2 ^ 52) := Even.mul_left (by decide) shift
    rw [Nat.even_add, iff_true_left carried]
  rw [← even] at cases
  rcases cases with ⟨same, middle⟩ | ⟨same, middle⟩
  · rw [same]
    exact .of_twice_le strictMono_units positive value next middle
  · rw [same, ← Nat.add_assoc]
    exact .of_le_twice strictMono_units positive value next remainder middle

private theorem isNearest_shifted (numerator : ℕ) {denominator : ℕ} (positive : 0 < denominator) :
    IsNearest (fun p => (unitsAt p : ℚ)) Set.univ (numerator / denominator)
      (((numerator / denominator).log2 - 52) * 2 ^ 52 + roundHalfEven numerator
        (denominator * 2 ^ ((numerator / denominator).log2 - 52))) := by
  obtain ⟨least, most⟩ := grid_bounds (numerator / denominator)
  rw [Nat.div_div_eq_div_mul] at least most
  exact isNearest_roundHalfEven positive least most

/-- The double that is read for a rational number has the nearest of all patterns, or that of
infinity in place of one behind it. -/
theorem exists_isNearest {denominator : ℕ} (numerator : ℕ) (positive : 0 < denominator) :
    ∃ pattern, nearest numerator denominator = ⟨UInt64.ofNat (min pattern infinityPattern)⟩ ∧
      IsNearest (fun p => (unitsAt p : ℚ)) Set.univ (numerator / denominator * 2 ^ 1074)
        pattern := by
  have scaled : (numerator / denominator * 2 ^ 1074 : ℚ) =
      (numerator * Nat.pow 2 1074 : ℕ) / denominator := by
    simp only [div_mul_eq_mul_div, pow_eq, Nat.cast_mul, Nat.cast_pow, Nat.cast_ofNat]
  rw [scaled]
  have near := isNearest_shifted (numerator * Nat.pow 2 1074) positive
  exact ⟨_, rfl, near⟩

end Binary64

end Lox
