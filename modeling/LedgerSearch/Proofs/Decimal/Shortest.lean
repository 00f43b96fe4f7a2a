import LedgerSearch.Decimal.Shortest
import LedgerSearch.Proofs.Decimal.Rounding

/-!
# `LedgerSearch.Proofs.Decimal.Shortest`: the written decimal is near the number

`Binary.shortest` searches for a decimal with few digits. Whatever it finds has passed the test of
`Interval.has`, so it is not above the end of the interval, half a unit of the last place above the
value (`size_shortest_le`). That is all that is needed to see that a reader does not find the
decimal too large. How many digits it has does not matter for it.

`mantissa_ofFloat_lt` and `exponent_ofFloat_le` say what `Binary.ofFloat` gives for a finite number.
-/

set_option autoImplicit false

namespace LedgerSearch.Decimal

/-- The number that a decimal stands for. -/
def Scaled.size (d : Scaled) : ℚ :=
  d.coefficient * 10 ^ d.exponent

/-! ### Decimals in the interval -/

/-- Zeros at the end can be left out. -/
theorem Scaled.size_trimZeros (d : Scaled) : d.trimZeros.size = d.size := by
  fun_induction trimZeros d with
  | case1 d h ih =>
      have hten : d.coefficient = d.coefficient / 10 * 10 := by omega
      rw [ih, size, size, zpow_add_one₀ (by norm_num)]
      conv_rhs => rw [hten]
      push_cast
      ring
  | case2 => rfl

/-- A power with an integer exponent as a quotient of powers with natural exponents. -/
theorem zpow_eq_div {x : ℚ} (hx : x ≠ 0) (e : ℤ) : x ^ e = x ^ e.toNat / x ^ (-e).toNat := by
  rw [← zpow_natCast, ← zpow_natCast, ← zpow_sub₀ hx]
  congr 1
  omega

/-- A decimal of an interval is not above its end. -/
theorem le_high_of_has {i : Interval} {coefficient : ℕ} {exponent : ℤ}
    (h : i.has coefficient exponent = true) :
    coefficient * 10 ^ exponent.toNat * i.den ≤ i.high * 10 ^ (-exponent).toNat := by
  unfold Interval.has at h
  split at h
  · simp only [Bool.and_eq_true, decide_eq_true_eq] at h
    exact h.2
  · simp only [Bool.and_eq_true, decide_eq_true_eq] at h
    exact h.2.le

/-- A decimal of the interval of a number is at most half a unit above it. -/
theorem size_le_of_has {b : Binary} {d : Scaled}
    (h : b.interval.has d.coefficient d.exponent = true) :
    d.size ≤ (2 * b.mantissa + 1) * 2 ^ (b.exponent - 1) := by
  have hrat : (d.coefficient : ℚ) * 10 ^ d.exponent.toNat * 2 ^ (2 - b.exponent).toNat
      ≤ (4 * b.mantissa + 2) * 2 ^ (b.exponent - 2).toNat * 10 ^ (-d.exponent).toNat := by
    exact_mod_cast le_high_of_has h
  have htwo : (2 : ℚ) ^ (b.exponent - 1)
      = 2 * (2 ^ (b.exponent - 2).toNat / 2 ^ (2 - b.exponent).toNat) := by
    have hneg : (-(b.exponent - 2)).toNat = (2 - b.exponent).toNat := by omega
    rw [← hneg, ← zpow_eq_div (by norm_num), ← zpow_one_add₀ (by norm_num)]
    congr 1
    omega
  rw [Scaled.size, zpow_eq_div (by norm_num), htwo, ← mul_div_assoc, ← mul_div_assoc,
    ← mul_div_assoc, div_le_div_iff₀ (by positivity) (by positivity)]
  linarith

/-- What is found on a grid lies in the interval. -/
theorem has_of_onGrid {i : Interval} {e : ℤ} {d : Scaled} (h : i.onGrid e = some d) :
    i.has d.coefficient d.exponent = true := by
  simp only [Interval.onGrid] at h
  split_ifs at h with hfirst hsecond
  all_goals
    obtain rfl := Option.some.inj h
    assumption

/-- **The written decimal is not above the interval of the number.** -/
theorem size_shortest_le (b : Binary) :
    b.shortest.size ≤ (2 * b.mantissa + 1) * 2 ^ (b.exponent - 1) := by
  have hzero : (⟨0, 0⟩ : Scaled).size ≤ (2 * b.mantissa + 1) * 2 ^ (b.exponent - 1) := by
    rw [Scaled.size]
    norm_num
    positivity
  unfold Binary.shortest
  split
  · exact hzero
  · dsimp only
    split
    case h_1 d hd =>
      obtain ⟨n, -, hgrid⟩ := List.exists_of_findSome?_eq_some hd
      rw [Scaled.size_trimZeros]
      exact size_le_of_has (has_of_onGrid hgrid)
    case h_2 => exact hzero

/-! ### What a float stands for -/

/-- The bits of a finite float do not have the largest exponent. -/
theorem biased_ne_of_isFinite {x : Float} (h : x.isFinite = true) :
    x.toBits.toNat / 2 ^ 52 % 2 ^ 11 ≠ 2047 := by
  intro heq
  have hexponent : @Float.Model.UnpackedFloat.unpackExponent .binary64
      x.toModel.toBits.toBitVec = -1#11 := by
    apply BitVec.eq_of_toNat_eq
    simp only [Float.Model.UnpackedFloat.unpackExponent, BitVec.toNat_cast,
      BitVec.extractLsb_toNat, Nat.shiftRight_eq_div_pow]
    exact heq
  change x.toModel.unpack.isFinite = true at h
  rw [Float.Model.unpack, Float.Model.UnpackedFloat.unpack] at h
  simp only [hexponent, if_true] at h
  -- with this exponent there are only infinity and what is no number
  split_ifs at h <;> exact Bool.false_ne_true h

/-- The mantissa of a number has at most 53 bits. -/
theorem mantissa_ofFloat_lt (x : Float) : (Binary.ofFloat x).mantissa < 2 ^ 53 := by
  have hmod : x.toBits.toNat % 2 ^ 52 < 2 ^ 52 := Nat.mod_lt _ (by decide)
  simp only [Binary.ofFloat, Nat.pow_eq]
  split
  · exact hmod.trans (by decide)
  · show x.toBits.toNat % 2 ^ 52 + 2 ^ 52 < 2 ^ 53
    omega

/-- The exponent of a finite number is at most that of the largest one. -/
theorem exponent_ofFloat_le {x : Float} (h : x.isFinite = true) :
    (Binary.ofFloat x).exponent ≤ 971 := by
  have hne := biased_ne_of_isFinite h
  have hmod : x.toBits.toNat / 2 ^ 52 % 2 ^ 11 < 2 ^ 11 := Nat.mod_lt _ (by decide)
  simp only [Binary.ofFloat, Nat.pow_eq]
  split
  · show (-1074 : ℤ) ≤ 971
    decide
  · show ((x.toBits.toNat / 2 ^ 52 % 2 ^ 11 : Nat) : ℤ) - 1075 ≤ 971
    omega

end LedgerSearch.Decimal
