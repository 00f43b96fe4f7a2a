/-!
# `LedgerSearch.Decimal.Binary`: what a floating-point number stands for

A finite 64-bit floating-point number is a sign, a whole number and a power of two. Printing works
on this exact value in natural numbers; no floating-point operation takes part in it.
-/

set_option autoImplicit false

namespace LedgerSearch.Decimal

/-- The value `mantissa * 2 ^ exponent`, with a minus sign when `negative`. Zero keeps its sign. -/
structure Binary where
  negative : Bool
  mantissa : Nat
  exponent : Int
deriving DecidableEq, Repr

/-- The exact value of a finite floating-point number: 52 bits of fraction below 11 bits of exponent
below the sign, the leading one of the fraction left out unless the exponent is zero. -/
def Binary.ofFloat (x : Float) : Binary :=
  let bits : Nat := x.toBits.toNat
  let fraction : Nat := bits % Nat.pow 2 52
  let biased : Nat := bits / Nat.pow 2 52 % Nat.pow 2 11
  let negative := bits / Nat.pow 2 63 == 1
  if biased = 0 then ⟨negative, fraction, -1074⟩
  else ⟨negative, fraction + Nat.pow 2 52, (biased : Int) - 1075⟩

/-- The value without its sign, as a fraction. -/
def Binary.ratio (b : Binary) : Nat × Nat :=
  (b.mantissa * Nat.pow 2 b.exponent.toNat, Nat.pow 2 (-b.exponent).toNat)

end LedgerSearch.Decimal
