import Lox.Proofs.Units
import Mathlib.Tactic.Ring

namespace Lox

open Nat (ofDigitChars toDigits)

theorem not_mem_toDigits {c : Char} (other : ¬ c.isDigit) (n : Nat) : c ∉ toDigits 10 n := by
  intro member
  exact other (Nat.isDigit_of_mem_toDigits (by decide) (by decide) member)

namespace Decimal

/-- A text is what stands before the zeros at its end, and these. -/
private theorem exists_zeros (text : List Char) :
    ∃ zeros, text = (text.reverse.dropWhile (· == '0')).reverse ++ List.replicate zeros '0' := by
  have run : text.reverse.takeWhile (· == '0') =
      List.replicate (text.reverse.takeWhile (· == '0')).length '0' := by
    refine List.eq_replicate_iff.mpr ⟨rfl, fun c member => ?_⟩
    exact eq_of_beq (List.all_eq_true.mp List.all_takeWhile c member)
  refine ⟨(text.reverse.takeWhile (· == '0')).length, ?_⟩
  rw [← List.reverse_replicate, ← run, ← List.reverse_append, List.takeWhile_append_dropWhile,
    List.reverse_reverse]

/-- What stands behind the point before the zeros at its end are left out. -/
def padded (x : Decimal) : List Char :=
  let behind := toDigits 10 (x.digits % 10 ^ x.places)
  List.replicate (x.places - behind.length) '0' ++ behind

private theorem exists_padded (x : Decimal) :
    ∃ zeros, x.padded = x.decimals ++ List.replicate zeros '0' :=
  exists_zeros x.padded

private theorem isDigit_of_mem_decimals (x : Decimal) : ∀ c ∈ x.decimals, c.isDigit := by
  intro c member
  obtain ⟨zeros, whole⟩ := x.exists_padded
  have inside : c ∈ x.padded := whole ▸ List.mem_append_left _ member
  rcases List.mem_append.mp inside with zero | digit
  · obtain ⟨-, rfl⟩ := List.mem_replicate.mp zero
    decide
  · exact Nat.isDigit_of_mem_toDigits (by decide) (by decide) digit

private theorem value_padded (x : Decimal) :
    ofDigitChars 10 x.padded 0 = x.digits % 10 ^ x.places := by
  simp only [padded, Nat.ofDigitChars_append, Nat.ofDigitChars_replicate_zero, Nat.mul_zero,
    Nat.ofDigitChars_ten_toDigits]

private theorem length_padded (x : Decimal) (present : x.places ≠ 0) :
    x.padded.length = x.places := by
  have small : x.digits % 10 ^ x.places < 10 ^ x.places :=
    Nat.mod_lt _ (Nat.pow_pos (by decide))
  have fits := (Nat.length_toDigits_le_iff (by decide) (Nat.pos_of_ne_zero present)).mpr small
  simp only [padded, List.length_append, List.length_replicate]
  omega

/-- The digits behind the point give the fraction once the zeros are put back. -/
private theorem value_decimals (x : Decimal) : ∃ zeros, x.places = x.decimals.length + zeros ∧
    ofDigitChars 10 x.decimals 0 * 10 ^ zeros = x.digits % 10 ^ x.places := by
  by_cases present : x.places = 0
  · have empty : x.decimals = [] := by
      simp [decimals, present, Nat.pow_eq, Nat.mod_one]
    exact ⟨0, by simp [present, empty], by simp [present, empty, Nat.mod_one]⟩
  · obtain ⟨zeros, whole⟩ := x.exists_padded
    have length := x.length_padded present
    have value := x.value_padded
    rw [whole, List.length_append, List.length_replicate] at length
    rw [whole, Nat.ofDigitChars_append, Nat.ofDigitChars_replicate_zero] at value
    exact ⟨zeros, length.symm, by rw [Nat.mul_comm, value]⟩

/-- The digits in front of the point. -/
def wholeDigits (x : Decimal) : List Char := toDigits 10 (x.digits / 10 ^ x.places)

private theorem isDigit_of_mem_wholeDigits (x : Decimal) : ∀ c ∈ x.wholeDigits, c.isDigit :=
  fun _ member => Nat.isDigit_of_mem_toDigits (by decide) (by decide) member

private theorem numeral_cases (x : Decimal) :
    (x.decimals = [] ∧ x.numeral = x.wholeDigits) ∨
      (x.decimals ≠ [] ∧ x.numeral = x.wholeDigits ++ '.' :: x.decimals) := by
  cases behind : x.decimals with
  | nil => exact .inl ⟨rfl, by simp [numeral, behind, wholeDigits, Nat.pow_eq]⟩
  | cons d rest => exact .inr ⟨by simp, by simp [numeral, behind, wholeDigits, Nat.pow_eq]⟩

theorem admits_numeral (x : Decimal) : Shape.Admits .number x.numeral := by
  have nonempty : x.wholeDigits ≠ [] := Nat.toDigits_ne_nil
  rcases x.numeral_cases with ⟨-, same⟩ | ⟨present, same⟩
  · rw [same]
    exact .whole nonempty x.isDigit_of_mem_wholeDigits
  · rw [same]
    exact .fractional nonempty x.isDigit_of_mem_wholeDigits present x.isDigit_of_mem_decimals

private theorem not_mem_numeral (x : Decimal) (notDigit : ¬ c.isDigit) (notPoint : c ≠ '.') :
    c ∉ x.numeral :=
  Segment.IsUnit.not_mem_number (.inl x.admits_numeral) notDigit notPoint

/-- A numeral is read digit by digit. -/
theorem ofNumeral_whole {digits : List Char} (numeric : ∀ c ∈ digits, c.isDigit) :
    ofNumeral digits = ⟨ofDigitChars 10 digits 0, 0⟩ := by
  have closed : ∀ c ∈ ([] : List Char).head?, ¬ c.isDigit := by simp
  have run := takeWhile_run numeric closed
  rw [List.append_nil] at run
  have behind : digits.drop (digits.length + 1) = [] := by simp
  simp [ofNumeral, run, behind]

theorem ofNumeral_fractional {digits : List Char} (numeric : ∀ c ∈ digits, c.isDigit)
    (decimals : List Char) : ofNumeral (digits ++ '.' :: decimals) =
      ⟨ofDigitChars 10 (digits ++ decimals) 0, decimals.length⟩ := by
  have run : (digits ++ '.' :: decimals).takeWhile Char.isDigit = digits :=
    takeWhile_run numeric (by simp)
  simp [ofNumeral, run]

private theorem ofNumeral_numeral (x : Decimal) : ofNumeral x.numeral =
    ⟨ofDigitChars 10 (x.wholeDigits ++ x.decimals) 0, x.decimals.length⟩ := by
  have inside := x.isDigit_of_mem_wholeDigits
  rcases x.numeral_cases with ⟨empty, same⟩ | ⟨-, same⟩
  · rw [same, ofNumeral_whole inside, empty, List.append_nil, List.length_nil]
  · rw [same, ofNumeral_fractional inside]

/-- Two decimals stand for the same rational number. -/
def SameValue (x y : Decimal) : Prop := x.digits * 10 ^ y.places = y.digits * 10 ^ x.places

/-- A numeral is read as the value that it was written for. -/
private theorem sameValue_ofNumeral_numeral (x : Decimal) : SameValue (ofNumeral x.numeral) x := by
  obtain ⟨zeros, places, value⟩ := x.value_decimals
  have parts : x.digits = 10 ^ x.places * (x.digits / 10 ^ x.places) +
      ofDigitChars 10 x.decimals 0 * 10 ^ zeros := by
    rw [value, Nat.div_add_mod]
  rw [SameValue, ofNumeral_numeral, Nat.ofDigitChars_append,
    Nat.ofDigitChars_eq_ofDigitChars_zero (l := x.decimals), wholeDigits,
    Nat.ofDigitChars_ten_toDigits]
  generalize x.digits / 10 ^ x.places = whole at parts
  generalize ofDigitChars 10 x.decimals 0 = fraction at parts
  rw [parts, places]
  ring

end Decimal

namespace Binary64

open Nat (pow_eq)

private theorem roundHalfEven_mul (n : Nat) (positive : 0 < denominator) :
    roundHalfEven (n * denominator) denominator = n := by
  simp [roundHalfEven, Nat.mul_div_cancel _ positive, positive]

private theorem roundHalfEven_mul_mul (positive : 0 < factor) (numerator denominator : Nat) :
    roundHalfEven (numerator * factor) (denominator * factor) =
      roundHalfEven numerator denominator := by
  have scaled (n : Nat) : 2 * (n * factor) = 2 * n * factor := (Nat.mul_assoc 2 n factor).symm
  simp only [roundHalfEven, Nat.mul_div_mul_right _ _ positive, Nat.mul_mod_mul_right, scaled,
    Nat.mul_lt_mul_right positive, Nat.mul_left_inj (Nat.ne_of_gt positive)]

private theorem nearest_mul_mul (positive : 0 < factor) (numerator denominator : Nat) :
    nearest (numerator * factor) (denominator * factor) = nearest numerator denominator := by
  have scaled (n m : Nat) : n * factor * m = n * m * factor := Nat.mul_right_comm n factor m
  simp only [nearest, scaled, Nat.mul_div_mul_right _ _ positive,
    roundHalfEven_mul_mul positive]

/-- Decimals of one value are read as the same double. -/
private theorem toBinary64_congr {x y : Decimal} (same : x.SameValue y) :
    x.toBinary64 = y.toBinary64 := by
  have positive (n : Nat) : 0 < 10 ^ n := Nat.pow_pos (by decide)
  have left := nearest_mul_mul (positive y.places) x.digits (10 ^ x.places)
  have right := nearest_mul_mul (positive x.places) y.digits (10 ^ y.places)
  rw [Decimal.toBinary64, Decimal.toBinary64, pow_eq, pow_eq, ← left, ← right, same,
    Nat.mul_comm (10 ^ x.places)]

variable {x : Binary64}

private theorem magnitude_eq (x : Binary64) :
    x.magnitude = x.biasedExponent * 2 ^ 52 + x.fraction := by
  rw [biasedExponent, fraction, pow_eq, Nat.mul_comm, Nat.div_add_mod]

private theorem fraction_lt (x : Binary64) : x.fraction < 2 ^ 52 := by
  rw [fraction, pow_eq]
  exact Nat.mod_lt _ (by decide)

/-- How the magnitude of a double comes about from its significand and exponent, and how far the
significand goes. -/
theorem significand_cases (x : Binary64) :
    (x.significand < 2 ^ 52 ∧ x.exponent = 0 ∧ x.magnitude = x.significand) ∨
      (2 ^ 52 ≤ x.significand ∧ x.significand < 2 ^ 53 ∧
        x.magnitude = x.exponent * 2 ^ 52 + x.significand) := by
  have small := x.fraction_lt
  have parts := x.magnitude_eq
  by_cases subnormal : x.biasedExponent = 0
  · left
    simp only [significand, exponent, subnormal, ↓reduceIte] at parts ⊢
    exact ⟨small, trivial, by omega⟩
  · right
    simp only [significand, exponent, subnormal, ↓reduceIte, pow_eq]
    omega

private theorem log2_units (x : Binary64) : x.units.log2 - 52 = x.exponent := by
  rw [units, pow_eq]
  rcases x.significand_cases with ⟨small, subnormal, -⟩ | ⟨least, most, -⟩
  · rw [subnormal, Nat.pow_zero, Nat.mul_one]
    by_cases zero : x.significand = 0
    · simp [zero]
    · have few := (Nat.log2_lt zero).mpr small
      omega
  · have digits : (x.significand * 2 ^ x.exponent).log2 = 52 + x.exponent := by
      have positive : 0 < 2 ^ x.exponent := Nat.pow_pos (by decide)
      have nonzero : x.significand * 2 ^ x.exponent ≠ 0 := by
        have : 0 < x.significand * 2 ^ x.exponent := Nat.mul_pos (by omega) positive
        omega
      refine (Nat.log2_eq_iff nonzero).mpr ⟨?_, ?_⟩
      · rw [Nat.pow_add]
        exact Nat.mul_le_mul_right _ least
      · rw [Nat.add_right_comm, Nat.pow_add]
        exact Nat.mul_lt_mul_of_pos_right most positive
    omega

theorem toNat_bits_abs (x : Binary64) : x.abs.bits.toNat = x.magnitude := by
  have small : x.magnitude < 2 ^ 63 := by
    rw [magnitude, pow_eq]
    exact Nat.mod_lt _ (by decide)
  rw [abs, UInt64.toNat_ofNat']
  omega

/-- A rational number that is the value of a double is rounded to it. -/
private theorem nearest_eq_abs (finite : x.isFinite) (positive : 0 < denominator)
    (value : numerator * 2 ^ 1074 = x.units * denominator) :
    nearest numerator denominator = x.abs := by
  have bounded : x.magnitude < infinityPattern := of_decide_eq_true finite
  have rounded : roundHalfEven (x.units * denominator) (denominator * 2 ^ x.exponent) =
      x.significand := by
    have grid : x.units * denominator = x.significand * (denominator * 2 ^ x.exponent) := by
      rw [units, pow_eq]
      ring
    rw [grid]
    exact roundHalfEven_mul _ (Nat.mul_pos positive (Nat.pow_pos (by decide)))
  have pattern : x.exponent * 2 ^ 52 + x.significand = x.magnitude := by
    rcases x.significand_cases with ⟨-, subnormal, same⟩ | ⟨-, -, same⟩
    · rw [subnormal, same]
      omega
    · exact same.symm
  simp only [nearest, pow_eq, value, Nat.mul_div_cancel _ positive, log2_units, rounded, pattern]
  rw [Nat.min_eq_left (Nat.le_of_lt bounded), abs]

/-- A power of two below the point is a power of five there, over a power of ten. -/
private theorem pow_two_eq_pow_five (n exponent point : Nat) :
    n * 2 ^ (exponent - point) * 5 ^ (point - exponent) * 2 ^ point =
      n * 2 ^ exponent * 10 ^ (point - exponent) := by
  have ten : 10 ^ (point - exponent) = 2 ^ (point - exponent) * 5 ^ (point - exponent) := by
    rw [← Nat.mul_pow]
  have sum : exponent - point + point = exponent + (point - exponent) := by omega
  have two : 2 ^ (exponent - point) * 2 ^ point = 2 ^ exponent * 2 ^ (point - exponent) := by
    rw [← Nat.pow_add, ← Nat.pow_add, sum]
  calc n * 2 ^ (exponent - point) * 5 ^ (point - exponent) * 2 ^ point
      = n * (2 ^ (exponent - point) * 2 ^ point) * 5 ^ (point - exponent) := by ring
    _ = n * 2 ^ exponent * 10 ^ (point - exponent) := by rw [two, ten]; ring

/-- The exact decimal of a double is read as it. -/
private theorem toBinary64_exact (finite : x.isFinite) : x.exact.toBinary64 = x.abs := by
  have positive (places : Nat) : 0 < 10 ^ places := Nat.pow_pos (by decide)
  have value := pow_two_eq_pow_five x.significand x.exponent 1074
  simp only [Decimal.toBinary64, exact, pow_eq]
  refine nearest_eq_abs finite (positive _) ?_
  rw [units, pow_eq, value]

private theorem neighbour?_good {good : Nat → Bool} (found : neighbour? good value step = some n) :
    good n = true := by
  simp only [neighbour?] at found
  split at found
  · rename_i below above
    split at found
    · exact Option.some.inj found ▸ below
    · exact Option.some.inj found ▸ above
  · rename_i below above
    exact Option.some.inj found ▸ below
  · rename_i below above
    exact Option.some.inj found ▸ above
  · cases found

/-- The shortest decimal reads back: it was chosen so, unless it is the exact one. -/
private theorem shortest_cases (x : Binary64) :
    x.shortest = x.exact ∨ x.shortest.toBinary64.bits.toNat = x.magnitude := by
  simp only [shortest]
  generalize search : List.findSome? _ (List.range maximalDigits) = found
  cases found with
  | none => exact .inl rfl
  | some digits =>
    obtain ⟨fewer, -, good⟩ := List.exists_of_findSome?_eq_some search
    have same := neighbour?_good good
    rw [Option.getD_some]
    exact .inr (eq_of_beq same)

theorem eq_of_toNat_bits {x y : Binary64} (same : x.bits.toNat = y.bits.toNat) : x = y :=
  congrArg mk (UInt64.toNat_inj.mp same)

private theorem toBinary64_shortest (finite : x.isFinite) : x.shortest.toBinary64 = x.abs := by
  rcases x.shortest_cases with exact | same
  · rw [exact, toBinary64_exact finite]
  · exact eq_of_toNat_bits (same.trans x.toNat_bits_abs.symm)

theorem abs_eq_self (unsigned : x.isNegative = false) : x.abs = x := by
  have small := x.bits.toNat_lt
  have other : x.bits.toNat / 2 ^ 63 ≠ 1 := by
    simpa [isNegative, pow_eq] using unsigned
  have same : x.magnitude = x.bits.toNat := by
    rw [magnitude, pow_eq]
    omega
  rw [abs, same, UInt64.ofNat_toNat]

/-- A number without a sign is written as its shortest numeral. -/
theorem text_eq_numeral (finite : x.isFinite) (unsigned : x.isNegative = false) :
    x.text = String.ofList x.shortest.numeral := by
  have number : x.isNaN = false := by
    have bounded : x.magnitude < infinityPattern := of_decide_eq_true finite
    simp only [isNaN, decide_eq_false_iff_not]
    omega
  simp [text, number, finite, unsigned]

/-- The numeral of a number is read as the same double. -/
theorem toBinary64_numeral (finite : x.isFinite) (unsigned : x.isNegative = false) :
    (Decimal.ofNumeral x.shortest.numeral).toBinary64 = x := by
  rw [toBinary64_congr x.shortest.sameValue_ofNumeral_numeral, toBinary64_shortest finite,
    abs_eq_self unsigned]

/-- What is written for any double. -/
theorem text_cases (x : Binary64) : x.text.toList = ['N', 'a', 'N'] ∨
    ∃ sign ∈ [[], ['-']], ∃ magnitude, x.text.toList = sign ++ magnitude ∧
      (magnitude = ['i', 'n', 'f'] ∨ magnitude = x.shortest.numeral) := by
  rw [text]
  split
  · exact .inl rfl
  · have magnitude : ∃ magnitude,
        (if x.isFinite then String.ofList x.shortest.numeral else "inf").toList = magnitude ∧
          (magnitude = ['i', 'n', 'f'] ∨ magnitude = x.shortest.numeral) := by
      split
      · exact ⟨_, String.toList_ofList, .inr rfl⟩
      · exact ⟨_, rfl, .inl rfl⟩
    obtain ⟨magnitude, same, forms⟩ := magnitude
    right
    dsimp only
    split
    · exact ⟨['-'], by simp, magnitude, by rw [String.toList_append, same]; rfl, forms⟩
    · exact ⟨[], by simp, magnitude, same, forms⟩

theorem not_mem_text (x : Binary64) (notDigit : ¬ c.isDigit)
    (other : c ∉ ['-', '.', 'i', 'n', 'f', 'N', 'a']) : c ∉ x.text.toList := by
  simp only [List.mem_cons, List.not_mem_nil, or_false, not_or] at other
  have noNumeral := x.shortest.not_mem_numeral notDigit other.2.1
  rcases x.text_cases with same | ⟨sign, member, magnitude, same, forms⟩
  · simp [same, other]
  · have noSign : c ∉ sign := by
      simp only [List.mem_cons, List.not_mem_nil, or_false] at member
      rcases member with rfl | rfl <;> simp [other]
    rw [same, List.mem_append, not_or]
    refine ⟨noSign, ?_⟩
    rcases forms with rfl | rfl
    · simp [other]
    · exact noNumeral

theorem text_ne_nil (x : Binary64) : x.text.toList ≠ [] := by
  rcases x.text_cases with same | ⟨sign, -, magnitude, same, forms⟩
  · simp [same]
  · rw [same]
    intro empty
    obtain ⟨-, nothing⟩ := List.append_eq_nil_iff.mp empty
    rcases forms with rfl | rfl
    · cases nothing
    · have isUnit : Segment.IsUnit ⟨.number, x.shortest.numeral⟩ := .inl x.shortest.admits_numeral
      exact isUnit.text_ne_nil nothing

end Binary64

end Lox
