import LedgerSearch.Decimal.Shortest
import LedgerSearch.Json.Basic

/-!
# `LedgerSearch.Json.Number`: numbers between their written and their stored form

Identifiers are 64-bit integers, amounts are floating-point numbers, and each reads the written form
by a rule of its own. Only a number without point and exponent is an integer; `-0` is none, because
its sign would be lost. Every number in range is a floating-point number: the leading digits that
fit into 64 bits are taken as one integer and scaled by a power of ten, both steps rounded. A number
beyond the largest floating-point number is refused, one below the smallest is zero.

An amount is written with the fewest digits that read back: with a point and positionally from
10^-5 up to below 10^16, with an exponent elsewhere.
-/

set_option autoImplicit false

namespace LedgerSearch.Json.Number

/-- The value of a decimal digit. -/
def digitOf (c : Char) : Fin 10 :=
  ⟨(c.toNat - '0'.toNat) % 10, Nat.mod_lt _ (by decide)⟩

/-- An integer. -/
def ofInt (i : Int) : Number :=
  ⟨i < 0, i.natAbs, [], none⟩

/-- A count. -/
def ofNat (n : Nat) : Number :=
  ⟨false, n, [], none⟩

/-- The 64-bit integer that the number is, if it is one. -/
def toInt64? (n : Number) : Option Int64 :=
  if n.fraction = [] ∧ n.exponent = none ∧ ¬(n.negative ∧ n.whole = 0) then
    let i : Int := if n.negative then -n.whole else n.whole
    if -0x8000000000000000 ≤ i ∧ i < 0x8000000000000000 then some (Int64.ofInt i) else none
  else none

/-! ### The floating-point number of a written number -/

/-- The leading digits of a number as one integer below 2^64, with the power of ten that scales it.
Of the whole part, digits that no longer fit only scale; of the fraction, they are dropped. -/
def significand (n : Number) : Nat × Int :=
  let rec whole (n : Nat) (dropped : Int) : Nat × Int :=
    if n < 0x10000000000000000 then (n, dropped) else whole (n / 10) (dropped + 1)
  let rec fraction (acc : Nat) (exponent : Int) : List (Fin 10) → Nat × Int
    | [] => (acc, exponent)
    | d :: ds =>
      if acc * 10 + d.val < 0x10000000000000000 then fraction (acc * 10 + d.val) (exponent - 1) ds
      else (acc, exponent)
  let (leading, dropped) := whole n.whole 0
  fraction leading dropped n.fraction

/-- A power of ten, up to 10^308, as a floating-point number. -/
def powerOfTen (n : Nat) : Float :=
  Float.ofScientific 1 false n

/-- A power of ten is rounded once, also where it is taken from the table of those that are
exact. -/
theorem powerOfTen_eq (k : Nat) : powerOfTen k = .ofModel (.ofScientific 1 k) := by
  by_cases h : k ≤ 22
  case pos =>
    have htable : ∀ k ≤ 22, powerOfTen k = .ofModel (.ofScientific 1 k) := by decide +kernel
    exact htable k h
  case neg => exact dif_neg fun hk => h hk.2

/-- The number divided by a power of ten, in steps of at most 10^308. -/
def scaleDown (x : Float) (n : Nat) : Float :=
  if n ≤ 308 then x / powerOfTen n
  else if x == 0 then x
  else scaleDown (x / powerOfTen 308) (n - 308)
termination_by n
decreasing_by omega

/-- The floating-point number that the written number denotes; nothing when it is out of range. -/
def toFloat? (n : Number) : Option Float :=
  let (leading, power) := n.significand
  let power := power + n.exponent.getD 0
  let x := leading.toUInt64.toFloat
  let magnitude :=
    if power < 0 then scaleDown x power.natAbs
    else if power ≤ 308 then x * powerOfTen power.natAbs
    else if leading = 0 then x
    else powerOfTen 308 * powerOfTen 308
  if magnitude.isInf then none
  else some (if n.negative then -magnitude else magnitude)

/-! ### The written form of a floating-point number -/

/-- The digit nought. -/
def zeroDigit : Fin 10 :=
  ⟨0, by decide⟩

/-- The decimal digits of a number. -/
def digits (n : Nat) : List (Fin 10) :=
  (Nat.toDigits 10 n).map digitOf

/-- The number that decimal digits denote. -/
def ofDigits (ds : List (Fin 10)) : Nat :=
  ds.foldl (fun n d => n * 10 + d.val) 0

/-- The written form of a decimal number, with a minus sign when `negative`. -/
def ofDecimal (negative : Bool) (d : Decimal.Scaled) : Number :=
  let ds := digits d.coefficient
  -- The value lies between 10^(point - 1) and 10^point.
  let point := (ds.length : Int) + d.exponent
  if d.coefficient = 0 then ⟨negative, 0, [zeroDigit], none⟩
  else if 0 ≤ d.exponent ∧ point ≤ 16 then
    ⟨negative, d.coefficient * Nat.pow 10 d.exponent.toNat, [zeroDigit], none⟩
  else if 0 < point ∧ point ≤ 16 then
    ⟨negative, ofDigits (ds.take point.toNat), ds.drop point.toNat, none⟩
  else if -5 < point ∧ point ≤ 0 then
    ⟨negative, 0, List.replicate point.natAbs zeroDigit ++ ds, none⟩
  else ⟨negative, ofDigits (ds.take 1), ds.drop 1, some (point - 1)⟩

/-- The written form of a finite floating-point number. -/
def ofFloat (x : Float) : Number :=
  let b := Decimal.Binary.ofFloat x
  ofDecimal b.negative b.shortest

/-- The sixteen largest numbers of the format, written and read one by one. -/
theorem isSome_toFloat?_shortest : ∀ i < 16,
    (ofDecimal false (Decimal.Binary.shortest ⟨false, 0x1fffffffffffff - i, 971⟩)).toFloat?.isSome
      = true := by
  decide +kernel

end LedgerSearch.Json.Number
