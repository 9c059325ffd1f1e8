namespace Lox

/-- The non-negative rational `digits / 10 ^ places`. -/
structure Decimal where
  digits : Nat
  places : Nat
deriving DecidableEq, Repr

namespace Decimal

/-- The value of `whole` or `whole.decimals`, where both are runs of the digits 0 to 9. -/
def ofNumeral (numeral : List Char) : Decimal :=
  let whole := numeral.takeWhile Char.isDigit
  let decimals := numeral.drop (whole.length + 1)
  { digits := Nat.ofDigitChars 10 (whole ++ decimals) 0
    places := decimals.length }

/-- The digits behind the point, without the zeros at their end. -/
def decimals (x : Decimal) : List Char :=
  let behind := Nat.toDigits 10 (x.digits % Nat.pow 10 x.places)
  let padded := List.replicate (x.places - behind.length) '0' ++ behind
  (padded.reverse.dropWhile (· == '0')).reverse

/-- Positional notation, whatever the size of the number; a whole number has no point. -/
def numeral (x : Decimal) : List Char :=
  let whole := Nat.toDigits 10 (x.digits / Nat.pow 10 x.places)
  match x.decimals with
  | [] => whole
  | behind => whole ++ '.' :: behind

end Decimal

end Lox
