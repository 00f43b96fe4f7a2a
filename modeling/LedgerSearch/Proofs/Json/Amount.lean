import LedgerSearch.Proofs.Decimal.Shortest
import LedgerSearch.Proofs.Json.Number

/-!
# `LedgerSearch.Proofs.Json.Amount`: every amount that is written can be read

An amount is written with the fewest digits that stand for it, but it is not read by the nearest
floating-point number to these digits. The reader rounds the digits, the power of ten and their
product, so what it gives may be a neighbour of the amount. Of the largest amounts the neighbour
above is infinity, and a number that reads as infinity is refused.

`isSome_toFloat?_ofFloat` says that no amount is lost in this way. The decimal is at most half a
unit above the amount (`Decimal.size_shortest_le`), the text has the value of the decimal
(`size_ofDecimal`), and a text whose value stays some way below 2^1024 is in range
(`isSome_toFloat?`). That leaves the sixteen largest numbers, which are read one by one
(`isSome_toFloat?_of_largest`).

In the other direction `isFinite_of_toFloat?` says that what is read is finite.
-/

set_option autoImplicit false

namespace LedgerSearch.Json.Number

open Decimal

/-! ### Powers of ten -/

/-- The largest power of ten of the format is below 2^1024, with room for its rounding. -/
theorem tenPow_room : (3 : ℚ) / 2 * 10 ^ 308 + 1 < 2 ^ 1024 := by
  calc (3 : ℚ) / 2 * 10 ^ 308 + 1 = 3 / 2 * (10 ^ 77) ^ 4 + 1 := by rw [← pow_mul]
    _ < (2 ^ 256) ^ 4 := by norm_num
    _ = 2 ^ 1024 := (pow_mul 2 256 4).symm

/-- The next power of ten is beyond 2^1024. -/
theorem two_pow_le_tenPow : (2 : ℚ) ^ 1024 ≤ 10 ^ 309 := by
  calc (2 : ℚ) ^ 1024 = (2 ^ 256) ^ 4 := pow_mul 2 256 4
    _ ≤ (10 ^ 103) ^ 3 := by norm_num
    _ = 10 ^ 309 := (pow_mul 10 103 3).symm

/-- Each power of ten of the format is below 2^1024. -/
theorem tenPow_le {k : ℕ} (h : k ≤ 308) : (10 : ℚ) ^ k ≤ 2 ^ 1024 := by
  have hpow : (10 : ℚ) ^ k ≤ 10 ^ 308 := pow_le_pow_right₀ (by norm_num) h
  have hroom := tenPow_room
  have hpos : (0 : ℚ) < 10 ^ 308 := by positivity
  generalize (10 : ℚ) ^ 308 = ten at hpow hroom hpos
  generalize (2 : ℚ) ^ 1024 = top at hroom ⊢
  linarith only [hpow, hroom, hpos]

/-- A power of ten of the format is finite and near the exact power. -/
theorem powerOfTen_spec {k : ℕ} (h : k ≤ 308) :
    (powerOfTen k).isFinite = true ∧
      |magnitude (powerOfTen k) - 10 ^ k| ≤ roundingError (10 ^ k) := by
  obtain ⟨hrounded, hsize⟩ := tenPow_rounded h
  have hpow : (10 : ℚ) ^ k ≤ 10 ^ 308 := pow_le_pow_right₀ (by norm_num) h
  rw [powerOfTen_eq]
  refine finite_of_near hrounded (by positivity) hsize (lt_of_le_of_lt ?_ tenPow_room)
  generalize (10 : ℚ) ^ 308 = top at hpow ⊢
  linarith only [hpow]

/-- Each power of ten but the first is at least two. -/
theorem two_le_powerOfTen {k : ℕ} (hk : 1 ≤ k) (h : k ≤ 308) : 2 ≤ magnitude (powerOfTen k) := by
  have hdown := (abs_sub_le_iff.mp (powerOfTen_spec h).2).2
  have herror := roundingError_le (show (0 : ℚ) ≤ 10 ^ k by positivity)
  have hpow : (10 : ℚ) ^ 1 ≤ 10 ^ k := pow_le_pow_right₀ (by norm_num) hk
  linarith only [hdown, herror, hpow]

/-- Scaling down stays finite. -/
theorem isFinite_scaleDown {x : Float} {n : ℕ} (hx : x.isFinite = true) (hn : 1 ≤ n) :
    (scaleDown x n).isFinite = true := by
  fun_induction scaleDown x n with
  | case1 x n h => exact isFinite_div hx (powerOfTen_spec h).1 (two_le_powerOfTen hn h)
  | case2 x n => exact hx
  | case3 x n h hne ih =>
      exact ih (isFinite_div hx (powerOfTen_spec le_rfl).1 (two_le_powerOfTen (by decide) le_rfl))
        (by omega)

/-! ### Reading: the float of the leading digits and a power of ten -/

/-- The float that leading digits and a power of ten give. -/
def scaled (leading : ℕ) (power : ℤ) : Float :=
  let x := leading.toUInt64.toFloat
  if power < 0 then scaleDown x power.natAbs
  else if power ≤ 308 then x * powerOfTen power.natAbs
  else if leading = 0 then x
  else powerOfTen 308 * powerOfTen 308

theorem toFloat?_eq (n : Number) :
    n.toFloat?
      = if (scaled n.significand.1 (n.significand.2 + n.exponent.getD 0)).isInf then none
        else some (if n.negative then -scaled n.significand.1 (n.significand.2 + n.exponent.getD 0)
          else scaled n.significand.1 (n.significand.2 + n.exponent.getD 0)) :=
  rfl

/-- A number is in range unless its digits give infinity. The sign has no part in that. -/
theorem isSome_toFloat?_eq (n : Number) :
    n.toFloat?.isSome
      = !(scaled n.significand.1 (n.significand.2 + n.exponent.getD 0)).isInf := by
  rw [toFloat?_eq]
  cases (scaled n.significand.1 (n.significand.2 + n.exponent.getD 0)).isInf <;> rfl

/-- What the digits give is finite or infinite, but always a number. -/
theorem isFinite_or_isInf_scaled (leading : ℕ) (power : ℤ) :
    (scaled leading power).isFinite = true ∨ (scaled leading power).isInf = true := by
  have hx := (toFloat_spec leading.toUInt64).1
  unfold scaled
  dsimp only
  split_ifs with hneg hsmall hzero
  · exact .inl (isFinite_scaleDown hx (by omega))
  · exact (mul_spec hx (powerOfTen_spec (by omega)).1).imp_right And.left
  · exact .inl hx
  · exact (mul_spec (powerOfTen_spec le_rfl).1 (powerOfTen_spec le_rfl).1).imp_right And.left

/-- **An amount that is read is finite.** -/
theorem isFinite_of_toFloat? {n : Number} {x : Float} (h : n.toFloat? = some x) :
    x.isFinite = true := by
  rw [toFloat?_eq] at h
  split at h
  case isTrue => cases h
  case isFalse hinf =>
    have hfinite := (isFinite_or_isInf_scaled n.significand.1
      (n.significand.2 + n.exponent.getD 0)).resolve_right hinf
    obtain rfl := Option.some.inj h
    split
    · exact isFinite_neg hfinite
    · exact hfinite

/-- Two numbers whose product stays some way below a bound, each moved by rounding, have a product
that still stays below the bound when it is rounded. -/
theorem mul_add_error_lt {a b x y top ε η : ℚ} (ha : 0 ≤ a) (hb : 0 ≤ b) (hy : 0 ≤ y)
    (hx' : x ≤ a + (ε * a + η)) (hy' : y ≤ b + (ε * b + η)) (hε : 0 < ε) (hε' : ε ≤ 1 / 8)
    (hη : 0 < η) (hη' : η ≤ 1 / 4) (hηa : η * a ≤ 1 / 4) (hηb : η * b ≤ 1 / 4)
    (htop : 4 ≤ ε * top) (hab : a * b ≤ (1 - 8 * ε) * top) :
    x * y + (ε * (x * y) + η) < top := by
  have hab₀ : 0 ≤ a * b := mul_nonneg ha hb
  have hproduct : x * y ≤ (1 + ε) ^ 2 * (a * b) + 2 := by
    calc x * y ≤ (a + (ε * a + η)) * (b + (ε * b + η)) :=
          mul_le_mul hx' hy' hy (by positivity)
      _ = (1 + ε) ^ 2 * (a * b) + (1 + ε) * (η * a + η * b) + η * η := by ring
      _ ≤ (1 + ε) ^ 2 * (a * b) + 2 := by nlinarith
  have hcube : (1 + ε) ^ 3 * (a * b) ≤ (1 + 4 * ε) * (a * b) := by
    have hsquare : ε * ε ≤ 1 / 8 * ε := mul_le_mul_of_nonneg_right hε' hε.le
    refine mul_le_mul_of_nonneg_right ?_ hab₀
    nlinarith
  have hlast : (1 + 4 * ε) * (a * b) ≤ top - 4 * (ε * top) := by
    have hstep := mul_le_mul_of_nonneg_left hab (show 0 ≤ 1 + 4 * ε by positivity)
    nlinarith
  calc x * y + (ε * (x * y) + η) = (1 + ε) * (x * y) + η := by ring
    _ ≤ (1 + ε) * ((1 + ε) ^ 2 * (a * b) + 2) + η := by gcongr
    _ = (1 + ε) ^ 3 * (a * b) + 2 * (1 + ε) + η := by ring
    _ < top := by linarith only [hcube, hlast, htop, hε', hη']

/-- A product with a power of ten is finite, if without rounding it were some way below 2^1024. -/
theorem isFinite_mul_powerOfTen {x : Float} {a : ℚ} {k : ℕ} (hx : x.isFinite = true)
    (hnear : |magnitude x - a| ≤ roundingError a) (ha : 0 ≤ a) (ha' : a ≤ 2 ^ 1024) (hk : k ≤ 308)
    (hsize : a * 10 ^ k ≤ (1 - 2 ^ (-49 : ℤ)) * 2 ^ 1024) : (x * powerOfTen k).isFinite = true := by
  obtain ⟨hy, hynear⟩ := powerOfTen_spec hk
  refine (mul_spec hx hy).resolve_right fun ⟨_, hlarge⟩ => absurd hlarge (not_le.mpr ?_)
  have hη : (0 : ℚ) < 2 ^ (-1074 : ℤ) := by positivity
  have htiny : (2 : ℚ) ^ (-1074 : ℤ) * 2 ^ 1024 ≤ 1 / 4 := by
    rw [← zpow_natCast, ← zpow_add₀ (by norm_num)]
    norm_num
  have hroom : (4 : ℚ) ≤ 2 ^ (-52 : ℤ) * 2 ^ 1024 := by
    calc (4 : ℚ) = 2 ^ (-52 : ℤ) * 2 ^ 54 := by norm_num
      _ ≤ 2 ^ (-52 : ℤ) * 2 ^ 1024 :=
        mul_le_mul_of_nonneg_left (pow_le_pow_right₀ (by norm_num) (by decide)) (by positivity)
  have hunit : (2 : ℚ) ^ (-49 : ℤ) = 8 * 2 ^ (-52 : ℤ) := by norm_num
  rw [hunit] at hsize
  exact mul_add_error_lt ha (by positivity) (size_nonneg _)
    (sub_le_iff_le_add'.mp (abs_sub_le_iff.mp hnear).1)
    (sub_le_iff_le_add'.mp (abs_sub_le_iff.mp hynear).1) (by positivity) (by norm_num) hη
    ((le_mul_of_one_le_right hη.le (one_le_pow₀ (by norm_num))).trans htiny)
    ((mul_le_mul_of_nonneg_left ha' hη.le).trans htiny)
    ((mul_le_mul_of_nonneg_left (tenPow_le hk) hη.le).trans htiny) hroom hsize

/-- Below 2^1024 the power of ten cannot be large, unless there are no digits. -/
theorem power_le_of_lt {leading : ℕ} {power : ℤ} (hleading : leading ≠ 0)
    (hlt : (leading : ℚ) * 10 ^ power < 2 ^ 1024) : power ≤ 308 := by
  by_contra hlarge
  have hone : (1 : ℚ) ≤ leading := by exact_mod_cast Nat.one_le_iff_ne_zero.mpr hleading
  have hpower : (10 : ℚ) ^ 309 ≤ 10 ^ power := by
    rw [← zpow_natCast]
    exact zpow_le_zpow_right₀ (by norm_num) (by omega)
  have hproduct : (10 : ℚ) ^ power ≤ leading * 10 ^ power :=
    le_mul_of_one_le_left (by positivity) hone
  exact absurd (two_pow_le_tenPow.trans (hpower.trans hproduct)) (not_le.mpr hlt)

/-- Digits that denote a number some way below 2^1024 give a finite float. -/
theorem isFinite_scaled {leading : ℕ} {power : ℤ} (hleading : leading < 2 ^ 64)
    (hsize : (leading : ℚ) * 10 ^ power ≤ (1 - 2 ^ (-49 : ℤ)) * 2 ^ 1024) :
    (scaled leading power).isFinite = true := by
  obtain ⟨hx, hnear⟩ := toFloat_spec leading.toUInt64
  have hnat : leading.toUInt64.toNat = leading := Nat.mod_eq_of_lt hleading
  rw [hnat] at hnear
  unfold scaled
  dsimp only
  split_ifs with hneg hsmall hzero
  · exact isFinite_scaleDown hx (by omega)
  · have hpower : (10 : ℚ) ^ power = 10 ^ power.natAbs := by
      rw [← zpow_natCast, Int.natAbs_of_nonneg (by omega)]
    have hbound : (leading : ℚ) ≤ 2 ^ 1024 := by
      have hleading' : (leading : ℚ) ≤ 2 ^ 64 := by exact_mod_cast hleading.le
      exact hleading'.trans (pow_le_pow_right₀ (by norm_num) (by decide))
    rw [hpower] at hsize
    exact isFinite_mul_powerOfTen hx hnear (Nat.cast_nonneg _) hbound (by omega) hsize
  · exact hx
  · have hbelow : (1 - 2 ^ (-49 : ℤ)) * (2 : ℚ) ^ 1024 < 2 ^ 1024 :=
      mul_lt_of_lt_one_left (by positivity) (by norm_num)
    exact absurd (power_le_of_lt hzero (hsize.trans_lt hbelow)) hsmall

/-! ### Reading: the number that was written -/

/-- The number, without its sign, that is written. -/
def size (n : Number) : ℚ :=
  (n.whole + ofDigits n.fraction / 10 ^ n.fraction.length) * 10 ^ n.exponent.getD 0

theorem ofDigits_cons (d : Fin 10) (ds : List (Fin 10)) :
    ofDigits (d :: ds) = d.val * 10 ^ ds.length + ofDigits ds := by
  rw [← List.singleton_append, ofDigits_append]
  simp [ofDigits]

/-- The digits behind the point are taken as long as they fit. They denote no more than all of
them. -/
theorem significand_fraction_le (acc : ℕ) (e : ℤ) (ds : List (Fin 10)) (hacc : acc < 2 ^ 64) :
    (significand.fraction acc e ds).1 < 2 ^ 64 ∧
      ((significand.fraction acc e ds).1 : ℚ) * 10 ^ (significand.fraction acc e ds).2
        ≤ (acc + ofDigits ds / 10 ^ ds.length) * 10 ^ e := by
  induction ds generalizing acc e with
  | nil =>
      refine ⟨hacc, le_of_eq ?_⟩
      simp [significand.fraction, ofDigits]
  | cons d ds ih =>
      rw [significand.fraction]
      split
      case isTrue hfits =>
        obtain ⟨hlt, hle⟩ := ih (acc * 10 + d.val) (e - 1) hfits
        refine ⟨hlt, hle.trans (le_of_eq ?_)⟩
        rw [ofDigits_cons, List.length_cons, pow_succ, zpow_sub₀ (by norm_num), zpow_one]
        push_cast
        field_simp
        ring
      case isFalse =>
        refine ⟨hacc, ?_⟩
        have hmore : (0 : ℚ) ≤ ofDigits (d :: ds) / 10 ^ (d :: ds).length := by positivity
        exact mul_le_mul_of_nonneg_right (le_add_of_nonneg_right hmore) (by positivity)

/-- **A number some way below 2^1024 is in range.** -/
theorem isSome_toFloat? {n : Number} (hwhole : n.whole < 2 ^ 64)
    (hsize : n.size ≤ (1 - 2 ^ (-49 : ℤ)) * 2 ^ 1024) : n.toFloat?.isSome = true := by
  have hsignificand : n.significand = significand.fraction n.whole 0 n.fraction := by
    have hfits : n.whole < 0x10000000000000000 := hwhole
    rw [significand, significand.whole, if_pos hfits]
  obtain ⟨hlt, hle⟩ := significand_fraction_le n.whole 0 n.fraction hwhole
  rw [← hsignificand] at hlt hle
  have hscaled : (n.significand.1 : ℚ) * 10 ^ (n.significand.2 + n.exponent.getD 0) ≤ n.size := by
    rw [zpow_add₀ (by norm_num), ← mul_assoc, size]
    refine mul_le_mul_of_nonneg_right (hle.trans (le_of_eq ?_)) (by positivity)
    rw [zpow_zero, mul_one]
  rw [isSome_toFloat?_eq, isInf_of_isFinite (isFinite_scaled hlt (hscaled.trans hsize))]
  rfl

/-! ### Writing -/

theorem ofDigits_lt (ds : List (Fin 10)) : ofDigits ds < 10 ^ ds.length := by
  induction ds with
  | nil => decide
  | cons d ds ih =>
      rw [ofDigits_cons, List.length_cons, pow_succ]
      have hd := d.isLt
      nlinarith

theorem ofDigits_replicate_append (k : ℕ) (ds : List (Fin 10)) :
    ofDigits (List.replicate k zeroDigit ++ ds) = ofDigits ds := by
  induction k with
  | zero => rfl
  | succ k ih =>
      rw [List.replicate_succ, List.cons_append, ofDigits_cons, ih]
      show 0 * _ + _ = _
      rw [Nat.zero_mul, Nat.zero_add]

/-- A point between digits. -/
theorem ofDigits_split (ds : List (Fin 10)) (k : ℕ) :
    (ofDigits (ds.take k) : ℚ) + ofDigits (ds.drop k) / 10 ^ (ds.drop k).length
      = ofDigits ds / 10 ^ (ds.drop k).length := by
  have hall := ofDigits_append (ds.take k) (ds.drop k)
  rw [List.take_append_drop] at hall
  rw [hall]
  push_cast
  field_simp

variable (negative : Bool) (d : Scaled)

/-- The value of digits, all behind the point or with a point between them. -/
theorem div_pow_eq {c len : ℕ} {e : ℤ} (h : e = -(len : ℤ)) :
    (c : ℚ) / 10 ^ len = c * 10 ^ e := by
  rw [h, zpow_neg, zpow_natCast, div_eq_mul_inv]

/-- A decimal number is written as it is. -/
theorem size_ofDecimal : (ofDecimal negative d).size = d.size := by
  have hvalue := ofDigits_digits d.coefficient
  have hlength : 0 < (digits d.coefficient).length :=
    List.length_pos_iff.mpr (digits_ne_nil d.coefficient)
  unfold ofDecimal
  dsimp only
  split_ifs with hzero hwhole hpoint hsmall
  · simp [size, Scaled.size, hzero, ofDigits, zeroDigit]
  · have hexponent : (10 : ℚ) ^ d.exponent = 10 ^ d.exponent.toNat := by
      rw [← zpow_natCast, Int.toNat_of_nonneg hwhole.1]
    simp [size, Scaled.size, hexponent, ofDigits, zeroDigit]
  · -- the point stands between two digits
    show (_ + _) * (10 : ℚ) ^ (0 : ℤ) = _
    rw [ofDigits_split, hvalue, zpow_zero, mul_one]
    exact div_pow_eq (by rw [List.length_drop]; omega)
  · -- all digits stand behind the point, with zeros in front of them
    show (((0 : ℕ) : ℚ) + _) * (10 : ℚ) ^ (0 : ℤ) = _
    rw [ofDigits_replicate_append, hvalue, zpow_zero, mul_one, Nat.cast_zero, zero_add]
    exact div_pow_eq (by rw [List.length_append, List.length_replicate]; omega)
  · -- the point stands behind the first digit
    show (_ + _) * (10 : ℚ) ^ ((digits d.coefficient).length + d.exponent - 1) = _
    have hpower : d.exponent = -(((digits d.coefficient).drop 1).length : ℤ)
        + ((digits d.coefficient).length + d.exponent - 1) := by
      rw [List.length_drop]
      omega
    rw [ofDigits_split, hvalue, div_pow_eq rfl, mul_assoc, ← zpow_add₀ (by norm_num), ← hpower,
      Scaled.size]

/-- The whole part is small, since large numbers are written with an exponent. -/
theorem whole_ofDecimal_lt : (ofDecimal negative d).whole < 2 ^ 64 := by
  have hdigits : d.coefficient < 10 ^ (digits d.coefficient).length := by
    have hlt := ofDigits_lt (digits d.coefficient)
    rwa [ofDigits_digits] at hlt
  have htake : ∀ k, ofDigits ((digits d.coefficient).take k) < 10 ^ k := fun k =>
    (ofDigits_lt _).trans_le (Nat.pow_le_pow_right (by decide) (List.length_take_le _ _))
  unfold ofDecimal
  dsimp only
  split_ifs with hzero hwhole hpoint hsmall
  · exact Nat.two_pow_pos 64
  · calc d.coefficient * 10 ^ d.exponent.toNat
        < 10 ^ (digits d.coefficient).length * 10 ^ d.exponent.toNat :=
          Nat.mul_lt_mul_of_pos_right hdigits (Nat.pow_pos (by decide))
      _ = 10 ^ ((digits d.coefficient).length + d.exponent.toNat) := (Nat.pow_add ..).symm
      _ ≤ 10 ^ 16 := Nat.pow_le_pow_right (by decide) (by omega)
      _ < 2 ^ 64 := by decide
  · exact (htake _).trans_le ((Nat.pow_le_pow_right (by decide) (by omega)).trans
      (by decide : 10 ^ 16 ≤ 2 ^ 64))
  · exact Nat.two_pow_pos 64
  · exact (htake 1).trans (by decide)

/-- The largest numbers of the format are written close to the end of the range, so that rounding
could carry them beyond it. For them the reading is carried out. -/
theorem isSome_toFloat?_of_largest {b : Binary} (hm : b.mantissa < 2 ^ 53)
    (hlarge : 2 ^ 53 - 17 < b.mantissa) (he : b.exponent = 971) :
    (ofDecimal negative b.shortest).toFloat?.isSome = true := by
  have hsign (d : Scaled) : (ofDecimal negative d).toFloat?.isSome
      = (ofDecimal false d).toFloat?.isSome := by
    rw [isSome_toFloat?_eq, isSome_toFloat?_eq]
    unfold ofDecimal
    dsimp only
    split_ifs <;> rfl
  obtain ⟨sign, mantissa, exponent⟩ := b
  obtain rfl : exponent = 971 := he
  have hmantissa : mantissa = 0x1fffffffffffff - (0x1fffffffffffff - mantissa) := by
    show mantissa = _
    change mantissa < 2 ^ 53 at hm
    omega
  rw [hsign, hmantissa]
  exact isSome_toFloat?_shortest (0x1fffffffffffff - mantissa)
    (by change 2 ^ 53 - 17 < mantissa at hlarge; omega)

/-- **What is written for a finite number is in range.** -/
theorem isSome_toFloat?_ofFloat {x : Float} (hx : x.isFinite = true) :
    (ofFloat x).toFloat?.isSome = true := by
  have hm := mantissa_ofFloat_lt x
  have he := exponent_ofFloat_le hx
  have hnear := size_shortest_le (Binary.ofFloat x)
  rw [ofFloat]
  generalize Binary.ofFloat x = b at hm he hnear
  by_cases hlarge : 2 ^ 53 - 17 < b.mantissa ∧ b.exponent = 971
  case pos => exact isSome_toFloat?_of_largest _ hm hlarge.1 hlarge.2
  case neg =>
    refine isSome_toFloat? (whole_ofDecimal_lt _ _) ?_
    rw [size_ofDecimal]
    refine hnear.trans ?_
    have hbound : (1 - 2 ^ (-49 : ℤ)) * (2 : ℚ) ^ 1024 = (2 ^ 54 - 32) * 2 ^ (970 : ℤ) := by
      have hpow : (2 : ℚ) ^ 1024 = 2 ^ 54 * 2 ^ (970 : ℤ) := pow_add 2 54 970
      rw [hpow, ← mul_assoc]
      norm_num
    rw [hbound]
    by_cases hmax : b.exponent = 971
    case pos =>
      have hnat : 2 * b.mantissa + 1 + 32 ≤ 2 ^ 54 := by omega
      have hrat : 2 * (b.mantissa : ℚ) + 1 + 32 ≤ 2 ^ 54 := by exact_mod_cast hnat
      rw [hmax]
      exact mul_le_mul_of_nonneg_right (le_sub_iff_add_le.mpr hrat) (by positivity)
    case neg =>
      have hnat : 2 * b.mantissa + 1 ≤ 2 ^ 54 := by omega
      have hrat : 2 * (b.mantissa : ℚ) + 1 ≤ 2 ^ 54 := by exact_mod_cast hnat
      have hpow : (2 : ℚ) ^ (b.exponent - 1) ≤ 2 ^ (969 : ℤ) :=
        zpow_le_zpow_right₀ (by norm_num) (by omega)
      have hhalf : (2 : ℚ) ^ (970 : ℤ) = 2 * 2 ^ (969 : ℤ) := zpow_one_add₀ (by norm_num) 969
      calc (2 * (b.mantissa : ℚ) + 1) * 2 ^ (b.exponent - 1)
          ≤ 2 ^ 54 * 2 ^ (969 : ℤ) := mul_le_mul hrat hpow (by positivity) (by positivity)
        _ ≤ (2 ^ 54 - 32) * 2 * 2 ^ (969 : ℤ) :=
          mul_le_mul_of_nonneg_right (by norm_num) (by positivity)
        _ = (2 ^ 54 - 32) * 2 ^ (970 : ℤ) := by rw [hhalf, mul_assoc]

end LedgerSearch.Json.Number
