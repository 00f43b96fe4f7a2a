import LedgerSearch.Decimal.Binary

/-!
# `LedgerSearch.Decimal.Places`: a number with a fixed count of decimal places

The exact value is rounded to the nearest number with that many places, a half to the even
neighbour. A minus sign stays even where only zeros are left.
-/

set_option autoImplicit false

namespace LedgerSearch.Decimal

/-- The quotient rounded to the nearest whole number, a half to the even one. -/
def roundHalfEven (num den : Nat) : Nat :=
  let q := num / den
  let twice := 2 * (num % den)
  if twice < den then q
  else if den < twice then q + 1
  else q + q % 2

/-- The decimal digits, filled up with zeros in front to the given count. -/
def padDigits (count n : Nat) : String :=
  let digits := Nat.toDigits 10 n
  String.ofList (List.replicate (count - digits.length) '0' ++ digits)

/-- The number with the given count of decimal places, at least one. -/
def fixedPlaces (places : Nat) (b : Binary) : String :=
  let scaled := roundHalfEven (b.ratio.1 * Nat.pow 10 places) b.ratio.2
  (if b.negative then "-" else "") ++ toString (scaled / Nat.pow 10 places) ++ "."
    ++ padDigits places (scaled % Nat.pow 10 places)

end LedgerSearch.Decimal
