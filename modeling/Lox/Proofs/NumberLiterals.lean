import Lox.Proofs.CursorReading
import Lox.Proofs.Rounding
import Lox.Proofs.ScannedToken
import Mathlib.Data.Nat.Digits.Defs

namespace Lox

/-- A number as it is written: digits, and perhaps a point and more digits. -/
structure Numeral where
  whole : List Char
  decimals : List Char
  nonempty : whole ≠ []
  numeric : ∀ c ∈ whole ++ decimals, c.isDigit

namespace Numeral

def text (numeral : Numeral) : List Char :=
  match numeral.decimals with
  | [] => numeral.whole
  | decimals => numeral.whole ++ '.' :: decimals

/-- What a digit counts. -/
def digit (c : Char) : ℕ := c.toNat - '0'.toNat

/-- What the digits behind a point count: each a tenth of what it would count one place before. -/
def fraction : List Char → ℚ
  | [] => 0
  | c :: decimals => (digit c + fraction decimals) / 10

/-- The exact value of a numeral. -/
def value (numeral : Numeral) : ℚ :=
  (Nat.ofDigits 10 (numeral.whole.reverse.map digit) : ℕ) + fraction numeral.decimals

private theorem ofDigitChars_eq (digits : List Char) :
    Nat.ofDigitChars 10 digits 0 = Nat.ofDigits 10 (digits.reverse.map digit) := by
  rw [← List.reverse_reverse digits]
  generalize digits.reverse = reversed
  induction reversed with
  | nil => rfl
  | cons c reversed ih =>
    rw [List.reverse_cons, Nat.ofDigitChars_append, ih, Nat.ofDigitChars_cons,
      Nat.ofDigitChars_nil, List.reverse_append, List.reverse_singleton, List.singleton_append,
      List.map_cons, Nat.ofDigits_cons, Nat.add_comm]
    rfl

private theorem fraction_eq (decimals : List Char) :
    fraction decimals = Nat.ofDigitChars 10 decimals 0 / 10 ^ decimals.length := by
  induction decimals with
  | nil => simp [fraction]
  | cons c decimals ih =>
    have first : Nat.ofDigitChars 10 (c :: decimals) 0 =
        10 ^ decimals.length * digit c + Nat.ofDigitChars 10 decimals 0 := by
      rw [Nat.ofDigitChars_cons, Nat.ofDigitChars_eq_ofDigitChars_zero, Nat.mul_zero, Nat.zero_add]
      rfl
    rw [fraction, ih, first, List.length_cons, pow_succ]
    push_cast
    field_simp

/-- Digits alone, or digits on both sides of a point. -/
theorem text_cases (numeral : Numeral) :
    (numeral.decimals = [] ∧ numeral.text = numeral.whole) ∨
      (numeral.decimals ≠ [] ∧ numeral.text = numeral.whole ++ '.' :: numeral.decimals) := by
  cases behind : numeral.decimals with
  | nil => exact .inl ⟨rfl, by rw [text, behind]⟩
  | cons c decimals => exact .inr ⟨by simp, by rw [text, behind]⟩

/-- A numeral is read as its exact value. -/
private theorem ofNumeral_text (numeral : Numeral) : Decimal.ofNumeral numeral.text =
    ⟨Nat.ofDigitChars 10 (numeral.whole ++ numeral.decimals) 0, numeral.decimals.length⟩ := by
  have numeric : ∀ c ∈ numeral.whole, c.isDigit :=
    fun c member => numeral.numeric c (List.mem_append_left _ member)
  rcases numeral.text_cases with ⟨empty, same⟩ | ⟨-, same⟩
  · rw [same, Decimal.ofNumeral_whole numeric, empty, List.append_nil, List.length_nil]
  · rw [same, Decimal.ofNumeral_fractional numeric]

private theorem value_eq (numeral : Numeral) :
    numeral.value = Nat.ofDigitChars 10 (numeral.whole ++ numeral.decimals) 0 /
      (10 ^ numeral.decimals.length : ℕ) := by
  have digits : Nat.ofDigitChars 10 (numeral.whole ++ numeral.decimals) 0 =
      10 ^ numeral.decimals.length * Nat.ofDigitChars 10 numeral.whole 0 +
        Nat.ofDigitChars 10 numeral.decimals 0 := by
    rw [Nat.ofDigitChars_append]
    exact Nat.ofDigitChars_eq_ofDigitChars_zero
  rw [value, fraction_eq, ← ofDigitChars_eq, digits]
  push_cast
  field_simp

/-- The double that a numeral is read as is its exact value, rounded once. -/
theorem isRoundingOf_iff (numeral : Numeral) (x : Binary64) :
    x.IsRoundingOf numeral.value ↔ x = (Decimal.ofNumeral numeral.text).toBinary64 := by
  rw [value_eq, ofNumeral_text, Decimal.toBinary64]
  exact Binary64.isRoundingOf_iff _ (Nat.pow_pos (by decide))

/-- The numbers of the grammar are the numerals. -/
private theorem exists_of_admits {written : List Char} (admits : Shape.Admits .number written) :
    ∃ numeral : Numeral, written = numeral.text := by
  generalize shape : Shape.number = other at admits
  cases admits with
  | whole nonempty numeric => exact ⟨⟨written, [], nonempty, by simpa using numeric⟩, rfl⟩
  | @fractional digits decimals nonempty numeric nonempty' numeric' =>
    let numeral : Numeral :=
      ⟨digits, decimals, nonempty, List.forall_mem_append.mpr ⟨numeric, numeric'⟩⟩
    rcases numeral.text_cases with ⟨empty, -⟩ | ⟨-, same⟩
    · exact absurd empty nonempty'
    · exact ⟨numeral, same.symm⟩
  | _ => cases shape

private theorem isNumeral_text (numeral : Numeral) : Cursor.isNumeral numeral.text := by
  obtain ⟨numeric, numeric'⟩ := List.forall_mem_append.mp numeral.numeric
  rcases numeral.text_cases with ⟨-, same⟩ | ⟨present, same⟩
  · rw [same]
    exact Cursor.isNumeral_whole numeral.nonempty numeric
  · rw [same]
    exact Cursor.isNumeral_fractional numeral.nonempty numeric present numeric'

end Numeral

/-- The text of a unit that is a number. -/
private theorem Segment.IsUnit.exists_numeral {text : List Char} (isUnit : IsUnit ⟨.number, text⟩) :
    ∃ numeral : Numeral, text = numeral.text := by
  rcases isUnit with admits | ⟨c, -, same⟩
  · exact Numeral.exists_of_admits admits
  · cases same

/-- The literal of a number is what its digits are read as. -/
private theorem Delivers.exists_numeral (delivers : Delivers unit offset line (.token token))
    (isUnit : unit.IsUnit) (number : token.kind = .number) :
    ∃ numeral : Numeral, token.lexeme = String.ofList numeral.text ∧
      token.literal = .number (Decimal.ofNumeral numeral.text).toBinary64 := by
  have shape : unit.shape = .number := by
    rw [← delivers.unit_eq isUnit, Token.unit, number]
    rfl
  cases delivers with
  | number text =>
    obtain ⟨numeral, rfl⟩ := isUnit.exists_numeral
    exact ⟨numeral, rfl, rfl⟩
  | _ => cases shape

/-- Every number in a source can be read, so that no result says that one cannot, and the literal of
a number token is the exact value of its digits, rounded once: the nearest double, or the even one
of two that are as near, and infinity from halfway between the largest double and `2 ^ 1024`. It is
never negative, nor is it not a number. -/
theorem scan_rounds_numerals (source : String) :
    (∀ unit ∈ segments source.toList, unit.shape = .number → Cursor.isNumeral unit.text) ∧
      (∀ line text, Result.error ⟨line, .invalidNumber text⟩ ∉ scan source) ∧
      ∀ token, Result.token token ∈ scan source → token.kind = .number →
        ∃ (numeral : Numeral) (x : Binary64), token.lexeme = String.ofList numeral.text ∧
          token.literal = .number x ∧ ∀ y, y.IsRoundingOf numeral.value ↔ y = x := by
  refine ⟨?_, ?_, ?_⟩
  · rintro ⟨shape, text⟩ member rfl
    obtain ⟨numeral, same⟩ := (isUnit_of_mem_segments member).exists_numeral
    rw [same]
    exact numeral.isNumeral_text
  · intro line text member
    obtain ⟨unit, -, -, offset, line', delivers⟩ := exists_unit_of_mem_scan member
    cases delivers
  · intro token member number
    obtain ⟨unit, -, isUnit, offset, line, delivers⟩ := exists_unit_of_mem_scan member
    obtain ⟨numeral, lexeme, literal⟩ := delivers.exists_numeral isUnit number
    exact ⟨numeral, _, lexeme, literal, numeral.isRoundingOf_iff⟩

/-- Halfway between two doubles the even one is taken, here the lower one. The least bit more makes
it the upper one, however far behind the point it stands. -/
theorem scan_rounds_numerals_around_middle :
    let source := "9007199254740993 9007199254740993.0000000000000000000000000000000000000001"
    let middle : Token := ⟨.number, "9007199254740993", .number ⟨0x4340000000000000⟩, 1⟩
    let above : Token := ⟨.number, "9007199254740993.0000000000000000000000000000000000000001",
      .number ⟨0x4340000000000001⟩, 1⟩
    ∀ token ∈ [middle, above], Result.token token ∈ scan source ∧ token.kind = .number ∧
      ∃ (numeral : Numeral) (x : Binary64), token.lexeme = String.ofList numeral.text ∧
        token.literal = .number x ∧ ∀ y, y.IsRoundingOf numeral.value ↔ y = x := by
  intro source middle above token member
  have results : scan source = [.token middle, .token above] := by decide +kernel
  have present : Result.token token ∈ scan source := by
    rw [results]
    simpa using member
  have number : token.kind = .number := by
    simp only [List.mem_cons, List.not_mem_nil, or_false] at member
    rcases member with rfl | rfl <;> rfl
  exact ⟨present, number, (scan_rounds_numerals source).2.2 token present number⟩

end Lox
