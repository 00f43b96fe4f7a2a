import LedgerSearch.Decimal.Binary

/-!
# `LedgerSearch.Decimal.Shortest`: the fewest digits that read back

A floating-point number is written with the fewest decimal digits that still denote it: among the
decimals inside the interval of reals that round to the number, those with the fewest digits, and of
these the nearest.

For each count of digits only the two neighbours of the value on that decimal grid can be in the
interval first, so the search tries one grid after the other. Seventeen digits always suffice.
-/

set_option autoImplicit false

namespace LedgerSearch.Decimal

/-- The decimal number `coefficient * 10 ^ exponent`. -/
structure Scaled where
  coefficient : Nat
  exponent : Int
deriving DecidableEq, Repr

/-- The reals that round to a number, as fractions over one denominator. The value is not in the
middle when it is a power of two, since the next number below is then only half as far. -/
structure Interval where
  low : Nat
  value : Nat
  high : Nat
  den : Nat
  /-- The two ends belong to the interval. -/
  closed : Bool

/-- The interval of a number that is not zero. Its ends lie half-way to the neighbouring numbers and
round to the even mantissa. -/
def Binary.interval (b : Binary) : Interval :=
  let unit := Nat.pow 2 (b.exponent - 2).toNat
  let below := if b.mantissa = Nat.pow 2 52 ∧ b.exponent ≠ -1074 then 1 else 2
  { low := (4 * b.mantissa - below) * unit
    value := 4 * b.mantissa * unit
    high := (4 * b.mantissa + 2) * unit
    den := Nat.pow 2 (2 - b.exponent).toNat
    closed := b.mantissa % 2 = 0 }

/-- The decimal `coefficient * 10 ^ exponent` lies in the interval. -/
def Interval.has (i : Interval) (coefficient : Nat) (exponent : Int) : Bool :=
  let x := coefficient * Nat.pow 10 exponent.toNat * i.den
  let scale := Nat.pow 10 (-exponent).toNat
  if i.closed then i.low * scale ≤ x && x ≤ i.high * scale
  else i.low * scale < x && x < i.high * scale

/-- The position of the leading digit: the least `p` with the value below `10 ^ p`. -/
def Interval.magnitude (i : Interval) : Int :=
  if i.den ≤ i.value then (Nat.toDigits 10 (i.value / i.den)).length
  else
    match (List.range 400).find? fun z => i.den ≤ i.value * Nat.pow 10 (z + 1) with
    | some z => -(z : Int)
    | none => 0

/-- The nearest decimal of the interval with the given exponent, if one of the two neighbours of the
value lies in it. A value in the middle takes the even neighbour. -/
def Interval.onGrid (i : Interval) (exponent : Int) : Option Scaled :=
  let num := i.value * Nat.pow 10 (-exponent).toNat
  let den := i.den * Nat.pow 10 exponent.toNat
  let lower := num / den
  let upper := lower + 1
  let twice := 2 * (num % den)
  let preferUpper := den < twice || (den == twice && lower % 2 == 1)
  let first := if preferUpper then upper else lower
  let second := if preferUpper then lower else upper
  if i.has first exponent then some ⟨first, exponent⟩
  else if i.has second exponent then some ⟨second, exponent⟩
  else none

/-- The decimal without zeros at its end. -/
def Scaled.trimZeros (d : Scaled) : Scaled :=
  if h : d.coefficient ≠ 0 ∧ d.coefficient % 10 = 0 then
    Scaled.trimZeros ⟨d.coefficient / 10, d.exponent + 1⟩
  else d
termination_by d.coefficient
decreasing_by omega

/-- The shortest decimal that reads back as the number, its sign apart. -/
def Binary.shortest (b : Binary) : Scaled :=
  if b.mantissa = 0 then ⟨0, 0⟩
  else
    let i := b.interval
    match (List.range 17).findSome? fun n => i.onGrid (i.magnitude - ((n : Nat) + 1 : Int)) with
    | some d => d.trimZeros
    | none => ⟨0, 0⟩

end LedgerSearch.Decimal
