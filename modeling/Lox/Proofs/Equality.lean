import Lox.Proofs.PrefixForm
import Lox.Proofs.Rounding
import Lox.Proofs.ScannedToken

/-!
Equality. As doubles compare, a NaN equals nothing and the two zeros are equal, and so it is
wherever a number stands in a token, a value or an expression. But for that equality is identity: two
sides are equal if none of their numbers is a NaN and if they are the same once no zero has a sign. A
scan reads neither NaNs nor signs, and what is put together from its tokens equals nothing but
itself.
-/

namespace Lox

/-- Two sides are equal if both are numeric and if the same is left of them. -/
def ComparesBy {α : Type} [BEq α] (numeric : α → Prop) (left : α → α) : Prop :=
  ∀ a b, a == b ↔ (numeric a ∧ numeric b) ∧ left a = left b

namespace ComparesBy

variable {α : Type} [BEq α] {numeric : α → Prop} {left : α → α} {a b c : α}

private theorem comm (compares : ComparesBy numeric left) (a b : α) : (a == b) = (b == a) := by
  rw [Bool.eq_iff_iff, compares, compares, and_comm (a := numeric a), eq_comm]

theorem trans (compares : ComparesBy numeric left) (first : a == b) (second : b == c) : a == c := by
  obtain ⟨⟨numeric_a, -⟩, same⟩ := (compares a b).mp first
  obtain ⟨⟨-, numeric_c⟩, same'⟩ := (compares b c).mp second
  exact (compares a c).mpr ⟨⟨numeric_a, numeric_c⟩, same.trans same'⟩

private theorem self_iff (compares : ComparesBy numeric left) (a : α) : a == a ↔ numeric a := by
  rw [compares]
  simp

/-- Where all of it is left, equality is identity. -/
private theorem beq_iff_eq (compares : ComparesBy numeric left) (numeric_a : numeric a)
    (numeric_b : numeric b) (all_a : left a = a) (all_b : left b = b) : a == b ↔ a = b := by
  rw [compares, all_a, all_b]
  simp [numeric_a, numeric_b]

end ComparesBy

namespace Binary64

/-- The same number, but zero without a sign. -/
def plainZero (x : Binary64) : Binary64 := if x.isZero then ⟨0⟩ else x

private theorem comparesBy : ComparesBy (fun x : Binary64 => x.isNaN = false) plainZero := by
  intro x y
  have bits : x.bits.toNat = y.bits.toNat ↔ x = y := ⟨eq_of_toNat_bits, fun same => by rw [same]⟩
  have isZero_zero : isZero ⟨0⟩ := by decide
  have zeros : (x.bits.toNat = y.bits.toNat ∨ x.isZero ∧ y.isZero) ↔ x.plainZero = y.plainZero := by
    rw [bits, plainZero, plainZero]
    by_cases zero : x.isZero <;> by_cases zero' : y.isZero
    · simp [zero, zero']
    · have other : x ≠ y := fun same => zero' (same ▸ zero)
      have other' : ⟨0⟩ ≠ y := fun same => zero' (same ▸ isZero_zero)
      simp [zero, zero', other, other']
    · have other : x ≠ y := fun same => zero (same ▸ zero')
      have other' : x ≠ ⟨0⟩ := fun same => zero (same ▸ isZero_zero)
      simp [zero, zero', other, other']
    · simp [zero, zero']
  have unfolded : (x == y) = (!x.isNaN && !y.isNaN &&
      (x.bits.toNat == y.bits.toNat || (x.isZero && y.isZero))) := rfl
  rw [← zeros, unfolded]
  simp

/-- A number as it is read: without a sign, and no NaN. -/
def IsRead (x : Binary64) : Prop := x.isNegative = false ∧ x.isNaN = false

private theorem isRead_nearest (numerator denominator : ℕ) :
    (nearest numerator denominator).IsRead :=
  ⟨isNegative_nearest numerator denominator, isNaN_nearest numerator denominator⟩

private theorem IsRead.plainZero_eq {x : Binary64} (read : x.IsRead) : x.plainZero = x := by
  rw [plainZero]
  split
  · rename_i zero
    have none : x.bits.toNat = 0 := by
      rw [← magnitude_of_unsigned read.1]
      simpa [isZero] using zero
    exact eq_of_toNat_bits (x := ⟨0⟩) none.symm
  · rfl

end Binary64

section EachNumber

variable {P P' : Binary64 → Prop} (weaker : ∀ x, P x → P' x)

def Literal.EachNumber (P : Binary64 → Prop) (literal : Literal) : Prop :=
  ∀ x, literal = .number x → P x

def Token.EachNumber (P : Binary64 → Prop) (token : Token) : Prop := token.literal.EachNumber P

def Value.EachNumber (P : Binary64 → Prop) (value : Value) : Prop := ∀ x, value = .number x → P x

/-- The numbers of an expression are those of its literals and those of the tokens that are its
operators. -/
def Expr.EachNumber (P : Binary64 → Prop) (e : Expr) : Prop :=
  e.BuiltFrom (Token.EachNumber P) (Value.EachNumber P)

include weaker

theorem Token.EachNumber.mono {token : Token} (each : token.EachNumber P) : token.EachNumber P' :=
  fun x same => weaker x (each x same)

theorem Value.EachNumber.mono {value : Value} (each : value.EachNumber P) : value.EachNumber P' :=
  fun x same => weaker x (each x same)

theorem Expr.EachNumber.mono {e : Expr} (each : e.EachNumber P) : e.EachNumber P' :=
  BuiltFrom.mono each (fun _ operator => operator.mono weaker) fun _ leaf => leaf.mono weaker

end EachNumber

namespace Literal

def plainZero : Literal → Literal
  | number x => number x.plainZero
  | literal => literal

private theorem comparesBy : ComparesBy (EachNumber fun x => x.isNaN = false) plainZero := by
  intro a b
  cases a <;> cases b
  case number.number x y =>
    have unfolded : (number x == number y) = (x == y) := rfl
    simpa [unfolded, EachNumber, plainZero] using Binary64.comparesBy x y
  all_goals simp [BEq.beq, EachNumber, plainZero]

private theorem plainZero_eq {literal : Literal} (read : literal.EachNumber Binary64.IsRead) :
    literal.plainZero = literal := by
  cases literal with
  | number x => rw [plainZero, (read x rfl).plainZero_eq]
  | _ => rfl

end Literal

namespace Token

def plainZero (token : Token) : Token := { token with literal := token.literal.plainZero }

private theorem comparesBy : ComparesBy (EachNumber fun x => x.isNaN = false) plainZero := by
  rintro ⟨kind, lexeme, literal, line⟩ ⟨kind', lexeme', literal', line'⟩
  have unfolded : ((⟨kind, lexeme, literal, line⟩ : Token) == ⟨kind', lexeme', literal', line'⟩) =
      (decide (kind = kind') && decide (lexeme = lexeme') && literal == literal' &&
        decide (line = line')) := rfl
  rw [unfolded]
  simp only [Bool.and_eq_true, decide_eq_true_eq, Literal.comparesBy literal literal',
    EachNumber, plainZero, mk.injEq]
  tauto

private theorem plainZero_eq {token : Token} (read : token.EachNumber Binary64.IsRead) :
    token.plainZero = token := by
  rw [plainZero, Literal.plainZero_eq read]

end Token

namespace Value

def plainZero : Value → Value
  | number x => number x.plainZero
  | value => value

private theorem comparesBy : ComparesBy (EachNumber fun x => x.isNaN = false) plainZero := by
  intro a b
  cases a <;> cases b
  case number.number x y =>
    have unfolded : (number x == number y) = (x == y) := rfl
    simpa [unfolded, EachNumber, plainZero] using Binary64.comparesBy x y
  all_goals simp [BEq.beq, EachNumber, plainZero]

private theorem plainZero_eq {value : Value} (read : value.EachNumber Binary64.IsRead) :
    value.plainZero = value := by
  cases value with
  | number x => rw [plainZero, (read x rfl).plainZero_eq]
  | _ => rfl

end Value

namespace Expr

def plainZero : Expr → Expr
  | literal value => literal value.plainZero
  | grouping inner => grouping inner.plainZero
  | unary operator operand => unary operator.plainZero operand.plainZero
  | binary left operator right => binary left.plainZero operator.plainZero right.plainZero

private theorem comparesBy : ComparesBy (EachNumber fun x => x.isNaN = false) plainZero := by
  intro e e'
  change equal e e' = true ↔ _
  fun_induction equal e e' with
  | case1 value value' => simpa [EachNumber, plainZero] using Value.comparesBy value value'
  | case2 inner inner' ih => simpa [EachNumber, plainZero] using ih
  | case3 operator operand operator' operand' ih =>
    simp only [Bool.and_eq_true, Token.comparesBy operator operator', ih, EachNumber,
      BuiltFrom.unary_iff, plainZero, unary.injEq]
    tauto
  | case4 left operator right left' operator' right' ihLeft ihRight =>
    simp only [Bool.and_eq_true, Token.comparesBy operator operator', ihLeft, ihRight, EachNumber,
      BuiltFrom.binary_iff, plainZero, binary.injEq]
    tauto
  | case5 e e' noLiteral noGrouping noUnary noBinary =>
    have apart : e.plainZero ≠ e'.plainZero := by
      intro same
      cases e <;> cases e' <;> simp only [plainZero, reduceCtorEq] at same
      · exact noLiteral _ _ rfl rfl
      · exact noGrouping _ _ rfl rfl
      · exact noUnary _ _ _ _ rfl rfl
      · exact noBinary _ _ _ _ _ _ rfl rfl
    simp [apart]

private theorem plainZero_eq {e : Expr} (read : e.EachNumber Binary64.IsRead) :
    e.plainZero = e := by
  induction read with
  | literal leaf => rw [plainZero, Value.plainZero_eq leaf]
  | grouping _ inner => rw [plainZero, inner]
  | unary head _ operand => rw [plainZero, Token.plainZero_eq head, operand]
  | binary _ head _ left right => rw [plainZero, Token.plainZero_eq head, left, right]

end Expr

private theorem Token.IsScanned.eachNumber {token : Token} (scanned : token.IsScanned) :
    token.EachNumber Binary64.IsRead := by
  obtain ⟨source, member⟩ := scanned
  obtain ⟨unit, -, -, offset, line, delivers⟩ := exists_unit_of_mem_scan member
  cases delivers with
  | number numeral =>
    rintro x ⟨⟩
    exact Binary64.isRead_nearest _ _
  | _ => exact fun x => nofun

/-- A token that is scanned denotes the value. -/
def Value.IsScanned (value : Value) : Prop :=
  ∃ token : Token, token.IsScanned ∧ Value.ofToken? token = some value

/-- Only a number denotes a number, and it is the one that it has as its literal. -/
private theorem Value.literal_eq_of_number {token : Token} {x : Binary64}
    (denotes : ofToken? token = some (number x)) : token.literal = .number x := by
  rw [ofToken?] at denotes
  split at denotes
  case h_1 y kind literal =>
    obtain rfl : y = x := by simpa using denotes
    exact literal
  all_goals cases denotes

private theorem Value.IsScanned.eachNumber {value : Value} (scanned : value.IsScanned) :
    value.EachNumber Binary64.IsRead := by
  obtain ⟨token, scanned, denotes⟩ := scanned
  rintro x rfl
  exact scanned.eachNumber x (literal_eq_of_number denotes)

private theorem Token.IsScanned.beq_iff_eq {token token' : Token} (scanned : token.IsScanned)
    (scanned' : token'.IsScanned) : token == token' ↔ token = token' := by
  have read := scanned.eachNumber
  have read' := scanned'.eachNumber
  exact comparesBy.beq_iff_eq (read.mono fun _ => And.right) (read'.mono fun _ => And.right)
    (plainZero_eq read) (plainZero_eq read')

private theorem Result.beq_iff_eq {result result' : Result}
    (scanned : ∀ token, result = .token token → token.IsScanned)
    (scanned' : ∀ token, result' = .token token → token.IsScanned) :
    result == result' ↔ result = result' := by
  cases result <;> cases result'
  case token.token token token' =>
    have unfolded : (Result.token token == Result.token token') = (token == token') := rfl
    simpa [unfolded] using (scanned token rfl).beq_iff_eq (scanned' token' rfl)
  all_goals simp [BEq.beq]

private theorem results_beq_iff_eq {results results' : List Result}
    (scanned : ∀ token, .token token ∈ results → token.IsScanned)
    (scanned' : ∀ token, .token token ∈ results' → token.IsScanned) :
    results == results' ↔ results = results' := by
  induction results generalizing results' with
  | nil => cases results' <;> simp
  | cons result results ih =>
    cases results' with
    | nil => simp
    | cons result' results' =>
      have first : result == result' ↔ result = result' :=
        Result.beq_iff_eq (fun token same => scanned token (by simp [same]))
          fun token same => scanned' token (by simp [same])
      have others : results == results' ↔ results = results' :=
        ih (fun token member => scanned token (by simp [member]))
          fun token member => scanned' token (by simp [member])
      rw [List.cons_beq_cons, Bool.and_eq_true, first, others, List.cons.injEq]

private theorem scan_beq_iff_eq (source source' : String) :
    scan source == scan source' ↔ scan source = scan source' :=
  results_beq_iff_eq (fun _ member => ⟨source, member⟩) fun _ member => ⟨source', member⟩

namespace Expr

/-- An expression whose operators and literals are scanned. -/
def IsScanned (e : Expr) : Prop := e.BuiltFrom Token.IsScanned Value.IsScanned

private theorem IsScanned.eachNumber {e : Expr} (scanned : e.IsScanned) :
    e.EachNumber Binary64.IsRead :=
  scanned.mono (fun _ operator => operator.eachNumber) fun _ leaf => leaf.eachNumber

private theorem IsScanned.beq_iff_eq {e e' : Expr} (scanned : e.IsScanned)
    (scanned' : e'.IsScanned) : e == e' ↔ e = e' := by
  have read := scanned.eachNumber
  have read' := scanned'.eachNumber
  exact comparesBy.beq_iff_eq (read.mono fun _ => And.right) (read'.mono fun _ => And.right)
    (plainZero_eq read) (plainZero_eq read')

/-- Equality of expressions is symmetric and transitive, and an expression equals itself exactly if
none of its numbers is a NaN. If their operators and literals are scanned, expressions are equal
exactly if they are one tree, bit by bit, and so they show the same. Scans, too, have equal results
only if they have the same ones, and each equals itself. -/
theorem equality_laws :
    (∀ e e' : Expr, (e == e') = (e' == e)) ∧
      (∀ e e' e'' : Expr, e == e' → e' == e'' → e == e'') ∧
      (∀ e : Expr, e == e ↔ e.EachNumber fun x => x.isNaN = false) ∧
      (∀ e e' : Expr, e.IsScanned → e'.IsScanned →
        (e == e' ↔ e = e') ∧ (e == e' → e.text = e'.text)) ∧
      ∀ source source', scan source == scan source' ↔ scan source = scan source' := by
  refine ⟨comparesBy.comm, fun e e' e'' => comparesBy.trans, comparesBy.self_iff, ?_,
    scan_beq_iff_eq⟩
  intro e e' scanned scanned'
  have same := scanned.beq_iff_eq scanned'
  exact ⟨same, fun equal => congrArg text (same.mp equal)⟩

/-- The zeros are equal, and a NaN may be in an operator. `0.50` denotes what `0.5` denotes, but the
line of an operator counts, although it does not show. -/
theorem equality_laws_signs_and_lines :
    let zero : Expr := .literal (.number ⟨0⟩)
    let negative : Expr := .literal (.number ⟨0x8000000000000000⟩)
    let invalid : Expr := .unary ⟨.number, "1", .number ⟨0x7FF8000000000000⟩, 1⟩ zero
    let minus (line : UInt32) : Token := ⟨.minus, "-", .none, line⟩
    let half : Value := .number (Decimal.ofNumeral "0.50".toList).toBinary64
    let e : Expr := .unary (minus 1) (.literal (.number ⟨0x3FE0000000000000⟩))
    let e' : Expr := .unary (minus 1) (.literal half)
    let e'' : Expr := .unary (minus 2) (.literal half)
    (zero == negative ∧ negative == zero ∧ zero == zero) ∧ (invalid == invalid) = false ∧
      (e.IsScanned ∧ e'.IsScanned ∧ e''.IsScanned) ∧
      (e == e' ∧ e = e' ∧ e.text = e'.text) ∧ (e == e'') = false ∧
      scan "1 1" == scan "1 1" := by
  intro zero negative invalid minus half e e' e''
  obtain ⟨comm, trans, self_iff, identical, scans⟩ := equality_laws
  have zeros : zero == negative := by decide
  have zeros' : negative == zero := by rw [comm, zeros]
  have notSelf : ¬ invalid == invalid := by
    rw [self_iff]
    intro each
    have number := (BuiltFrom.unary_iff.mp each).1 ⟨0x7FF8000000000000⟩ rfl
    exact absurd number (by decide)
  have first : (minus 1).IsScanned := .of_scan_lexeme (by decide +kernel)
  have read : scan "\n-" = [.token (minus 2)] := by decide +kernel
  have second : (minus 2).IsScanned := ⟨"\n-", by simp [read]⟩
  have short : Value.IsScanned (.number ⟨0x3FE0000000000000⟩) :=
    ⟨⟨.number, "0.5", .number ⟨0x3FE0000000000000⟩, 1⟩, .of_scan_lexeme (by decide +kernel), rfl⟩
  have long : half.IsScanned :=
    ⟨⟨.number, "0.50", .number (Decimal.ofNumeral "0.50".toList).toBinary64, 1⟩,
      .of_scan_lexeme (by decide +kernel), rfl⟩
  have scanned : e.IsScanned := .unary first (.literal short)
  have scanned' : e'.IsScanned := .unary first (.literal long)
  have scanned'' : e''.IsScanned := .unary second (.literal long)
  have equal : e == e' := by decide +kernel
  have same := identical e e' scanned scanned'
  have lines : ¬ e == e'' := by
    rw [(identical e e'' scanned scanned'').1]
    simp [e, e'', minus]
  exact ⟨⟨zeros, zeros', trans zero negative zero zeros zeros'⟩, by simpa using notSelf,
    ⟨scanned, scanned', scanned''⟩, ⟨equal, same.1.mp equal, same.2 equal⟩, by simpa using lines,
    (scans _ _).mpr rfl⟩

end Expr

end Lox
