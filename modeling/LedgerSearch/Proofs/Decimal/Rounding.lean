import Mathlib

/-!
# `LedgerSearch.Proofs.Decimal.Rounding`: floating-point results that stay finite

The amounts of a ledger are 64-bit floating-point numbers, and to read one takes a conversion, a
product or some quotients. In the model of such numbers an operation unpacks its operands into
mantissa and exponent, rounds the exact result to 53 bits and packs it again. A result that is too
large is packed as infinity. This module says when that cannot happen. Exact values are rational
numbers (`size`, `magnitude`).

Rounding is the common part. `size_round` says that it moves a number by no more than a unit of its
last bit (`roundingError`). Half a unit would be true as well, but then it would matter which way a
number is rounded. `unpack_pack` says that rounded numbers survive packing below 2^1024. The results
on floats follow: `toFloat_spec` for whole numbers, `mul_spec` for products, `isFinite_div` for
quotients.
-/

set_option autoImplicit false

namespace LedgerSearch.Decimal

open Float.Model Float.Model.UnpackedFloat

/-- The number, without its sign, that an unpacked float stands for; zero where it stands for
none. -/
def size : UnpackedFloat → ℚ
  | .finite _ m e _ => m * 2 ^ e
  | _ => 0

/-- A zero, or a number in the form that rounding gives it: at most 53 bits, and fewer only where
the exponent cannot be lower. The exponent may still be too large for the format. -/
def IsRounded : UnpackedFloat → Prop
  | .finite _ m e _ => m < 2 ^ 53 ∧ -1074 ≤ e ∧ (2 ^ 52 ≤ m ∨ e = -1074)
  | .zero _ => True
  | _ => False

/-- How far rounding can move a number: by a unit of the last of 53 bits, or of the last bit that
there is at all. -/
def roundingError (x : ℚ) : ℚ :=
  2 ^ (-52 : ℤ) * x + 2 ^ (-1074 : ℤ)

theorem roundingError_nonneg {x : ℚ} (hx : 0 ≤ x) : 0 ≤ roundingError x := by
  unfold roundingError
  positivity

theorem size_nonneg (u : UnpackedFloat) : 0 ≤ size u := by
  cases u <;> simp only [size] <;> positivity

/-- Rounding moves a number by no more than half of it, unless it is very small. -/
theorem roundingError_le {x : ℚ} (hx : 0 ≤ x) : roundingError x ≤ x / 2 + 1 := by
  have hε : (2 : ℚ) ^ (-52 : ℤ) * x ≤ 1 / 2 * x := mul_le_mul_of_nonneg_right (by norm_num) hx
  have hη : (2 : ℚ) ^ (-1074 : ℤ) ≤ 1 := zpow_le_one_of_nonpos₀ (by norm_num) (by norm_num)
  rw [roundingError]
  linarith only [hε, hη]

/-! ### Rounding to 53 bits -/

section
variable {m : Nat} {e : Int} (a : Accuracy)

/-- The exponent that the format prescribes. -/
theorem targetExponent_eq (m : Nat) (e : Int) :
    Format.binary64.targetExponent (totalExponent m e) = max (m.log2 + e - 52) (-1074) := by
  simp only [Format.targetExponent, totalExponent, Format.mantissaBits, Format.minExponent]
  norm_num
  omega

/-- Shifting drops the last bits of the mantissa. -/
theorem mantissa_shiftRight (em : ExtendedMantissa) (k : Nat) :
    (em >>> k).mantissa = em.mantissa / 2 ^ k := by
  induction k with
  | zero => exact (Nat.div_one _).symm
  | succ k ih =>
      show (em >>> k).mantissa / 2 = _
      rw [ih, Nat.div_div_eq_div_mul, Nat.pow_succ]

/-- Rounding gives the mantissa or the next one. -/
theorem roundedMantissa_bounds (em : ExtendedMantissa) :
    em.mantissa ≤ em.roundedMantissa ∧ em.roundedMantissa ≤ em.mantissa + 1 := by
  obtain ⟨m, r, s⟩ := em
  cases r <;> cases s <;>
    simp only [ExtendedMantissa.roundedMantissa, ExtendedMantissa.accuracy,
      Accuracy.roundToNearestEven] <;> omega

/-- A mantissa of at most 53 bits needs no shift. -/
theorem shift_of_lt (hm : m < 2 ^ 53) (he : -1074 ≤ e) :
    shiftToTargetExponent .binary64 m e .exact = (⟨m, false, false⟩, e) := by
  have hlog : m.log2 ≤ 52 := by
    by_cases hzero : m = 0
    · simp [hzero]
    · exact Nat.lt_succ_iff.mp ((Nat.log2_lt hzero).mpr hm)
  have hshift : (Format.binary64.targetExponent (totalExponent m e) - e).toNat = 0 := by
    rw [targetExponent_eq]
    omega
  rw [shiftToTargetExponent, shiftToExponent, hshift]
  simp [ExtendedMantissa.ofMantissaAndAccuracy, HShiftRight.hShiftRight, Nat.repeat]

/-- A mantissa that was rounded up to one bit more needs a shift by one. -/
theorem shift_of_overflow (he : -1074 ≤ e) :
    shiftToTargetExponent .binary64 (2 ^ 53) e .exact = (⟨2 ^ 52, false, false⟩, e + 1) := by
  have hshift : (Format.binary64.targetExponent (totalExponent (2 ^ 53) e) - e).toNat = 1 := by
    rw [targetExponent_eq, Nat.log2_two_pow]
    omega
  rw [shiftToTargetExponent, shiftToExponent, hshift]
  rfl

/-- A shift by the bits beyond 53 leaves no more than 53. -/
theorem shifted_lt {k : Nat} (hk : m.log2 ≤ 52 + k) : m / 2 ^ k < 2 ^ 53 := by
  rw [Nat.div_lt_iff_lt_mul (Nat.two_pow_pos k), ← Nat.pow_add]
  exact Nat.lt_of_lt_of_le Nat.lt_log2_self (Nat.pow_le_pow_right (by decide) (by omega))

/-- A shift by no more than the bits beyond 53 leaves 53. -/
theorem le_shifted {k : Nat} (hm : m ≠ 0) (hk : 52 + k ≤ m.log2) : 2 ^ 52 ≤ m / 2 ^ k := by
  rw [Nat.le_div_iff_mul_le (Nat.two_pow_pos k), ← Nat.pow_add]
  exact Nat.le_trans (Nat.pow_le_pow_right (by decide) hk) (Nat.log2_self_le hm)

/-- What rounding makes of a mantissa and an exponent: the mantissa `r` with the exponent `t`,
where `r` is the quotient by a power of two or the next number. -/
theorem exists_round (s : Sign) (h : 52 ≤ m.log2 ∨ e ≤ -1074) :
    ∃ (k r : Nat) (t : Int), t = e + k ∧ t = max (m.log2 + e - 52) (-1074) ∧
      (2 ^ 52 ≤ r ∨ t = -1074) ∧ r ≤ 2 ^ 53 ∧ m / 2 ^ k ≤ r ∧ r ≤ m / 2 ^ k + 1 ∧
      roundWithAccuracy .binary64 s m e a =
        if hzero : r = 0 then .zero s
        else if r < 2 ^ 53 then .finite s r t (Nat.pos_of_ne_zero hzero)
        else .finite s (2 ^ 52) (t + 1) (by decide) := by
  let k := (Format.binary64.targetExponent (totalExponent m e) - e).toNat
  let em := ExtendedMantissa.ofMantissaAndAccuracy m a >>> k
  have hk : e + k = max (m.log2 + e - 52) (-1074) := by
    show e + ((Format.binary64.targetExponent (totalExponent m e) - e).toNat : Int) = _
    rw [targetExponent_eq]
    omega
  have hmantissa : em.mantissa = m / 2 ^ k := by
    rw [mantissa_shiftRight]
    rcases a with _ | o
    · rfl
    · cases o <;> rfl
  have hround := roundedMantissa_bounds em
  rw [hmantissa] at hround
  have hquotient : m / 2 ^ k < 2 ^ 53 := shifted_lt (by omega)
  have hnormal : 2 ^ 52 ≤ em.roundedMantissa ∨ e + (k : Int) = -1074 := by
    by_cases hmin : e + (k : Int) = -1074
    · exact .inr hmin
    · have hm : m ≠ 0 := by
        rintro rfl
        simp only [Nat.log2_zero] at h hk
        omega
      exact .inl ((le_shifted hm (by omega)).trans hround.1)
  have hmin : -1074 ≤ e + (k : Int) := by omega
  refine ⟨k, em.roundedMantissa, e + k, rfl, hk, hnormal, by omega, hround.1, hround.2, ?_⟩
  have hfirst : shiftToTargetExponent .binary64 m e a = (em, e + k) := rfl
  rw [roundWithAccuracy, hfirst]
  dsimp only
  generalize em.roundedMantissa = r at *
  by_cases hzero : r = 0
  · subst hzero
    simp only [shift_of_lt (m := 0) (by decide) hmin, dite_true]
  · by_cases hlt : r < 2 ^ 53
    · simp only [shift_of_lt hlt hmin, hzero, hlt, dite_false, if_true]
    · obtain rfl : r = 2 ^ 53 := by omega
      simp only [shift_of_overflow hmin]
      rfl

/-- Rounding gives a number in the form of the format. -/
theorem isRounded_round (s : Sign) (h : 52 ≤ m.log2 ∨ e ≤ -1074) :
    IsRounded (roundWithAccuracy .binary64 s m e a) := by
  obtain ⟨k, r, t, -, ht, hnormal, hr, -, -, heq⟩ := exists_round a s h
  rw [heq]
  split_ifs with hzero hlt
  · trivial
  · exact ⟨hlt, by omega, hnormal⟩
  · exact ⟨by decide, by omega, .inl le_rfl⟩

/-- A quotient by a power of two, or the next number, is no further from the number than one. -/
theorem abs_sub_le_unit {k r : Nat} {t : Int} (ht : t = e + k) (hlow : m / 2 ^ k ≤ r)
    (hhigh : r ≤ m / 2 ^ k + 1) : |(r : ℚ) * 2 ^ t - m * 2 ^ e| ≤ 2 ^ t := by
  have hdown : m ≤ r * 2 ^ k + 2 ^ k := by
    have hmod := Nat.mod_lt m (Nat.two_pow_pos k)
    have hdiv := Nat.div_add_mod' m (2 ^ k)
    have hmul := Nat.mul_le_mul_right (2 ^ k) hlow
    omega
  have hup : r * 2 ^ k ≤ m + 2 ^ k := by
    have hmul := Nat.mul_le_mul_right (2 ^ k) hhigh
    have hdiv := Nat.div_mul_le_self m (2 ^ k)
    rw [Nat.add_mul, Nat.one_mul] at hmul
    omega
  have hdown' : (m : ℚ) ≤ r * 2 ^ k + 2 ^ k := by exact_mod_cast hdown
  have hup' : (r : ℚ) * 2 ^ k ≤ m + 2 ^ k := by exact_mod_cast hup
  have hpos : (0 : ℚ) < 2 ^ e := by positivity
  rw [ht, zpow_add₀ (by norm_num), zpow_natCast, abs_sub_le_iff]
  constructor <;> nlinarith

/-- A unit in the last place of the rounded number is within the error of rounding. -/
theorem unit_le_roundingError {t : Int} (h : 52 ≤ m.log2 ∨ e ≤ -1074)
    (ht : t = max (m.log2 + e - 52) (-1074)) : (2 : ℚ) ^ t ≤ roundingError (m * 2 ^ e) := by
  rw [roundingError]
  by_cases hmin : t = -1074
  case pos =>
    have hproduct : (0 : ℚ) ≤ 2 ^ (-52 : ℤ) * (m * 2 ^ e) := by positivity
    rw [hmin]
    linarith
  case neg =>
    have hm : m ≠ 0 := by
      rintro rfl
      simp only [Nat.log2_zero] at h ht
      omega
    have hlog : (2 : ℚ) ^ m.log2 ≤ m := by exact_mod_cast Nat.log2_self_le hm
    have hsum : t = (-52 : ℤ) + ((m.log2 : ℤ) + e) := by omega
    have hpos : (0 : ℚ) ≤ 2 ^ (-1074 : ℤ) := by positivity
    calc (2 : ℚ) ^ t = 2 ^ (-52 : ℤ) * (2 ^ m.log2 * 2 ^ e) := by
          rw [hsum, zpow_add₀ (by norm_num), zpow_add₀ (by norm_num), zpow_natCast]
      _ ≤ 2 ^ (-52 : ℤ) * (m * 2 ^ e) := by gcongr
      _ ≤ _ := by linarith

/-- Rounding moves a number by no more than a unit in its last place. -/
theorem size_round (s : Sign) (h : 52 ≤ m.log2 ∨ e ≤ -1074) :
    |size (roundWithAccuracy .binary64 s m e a) - m * 2 ^ e| ≤ roundingError (m * 2 ^ e) := by
  obtain ⟨k, r, t, hkt, ht, -, hr, hlow, hhigh, heq⟩ := exists_round a s h
  have hsize : size (roundWithAccuracy .binary64 s m e a) = r * 2 ^ t := by
    rw [heq]
    split_ifs with hzero hlt
    · simp [size, hzero]
    · rfl
    · obtain rfl : r = 2 ^ 53 := by omega
      rw [size, zpow_add₀ (by norm_num)]
      push_cast
      ring
  rw [hsize]
  exact (abs_sub_le_unit hkt hlow hhigh).trans (unit_le_roundingError h ht)

end

/-! ### Arithmetic -/

/-- A whole number is rounded. -/
theorem ofNat_rounded (n : Nat) :
    IsRounded (UnpackedFloat.ofNat .binary64 n) ∧
      |size (UnpackedFloat.ofNat .binary64 n) - n| ≤ roundingError n := by
  by_cases hn : n = 0
  case pos =>
    subst hn
    refine ⟨trivial, ?_⟩
    show |(0 : ℚ) - 0| ≤ roundingError 0
    rw [sub_zero, abs_zero]
    exact roundingError_nonneg le_rfl
  case neg =>
    have hcompare : compare (n : Int) 0 = .gt := by
      rw [Int.compare_eq_gt]
      omega
    let k := (0 - Format.binary64.targetExponent (totalExponent n 0)).toNat
    have hround : UnpackedFloat.ofNat .binary64 n
        = roundWithAccuracy .binary64 .positive (n <<< k) (0 - k) .exact := by
      rw [UnpackedFloat.ofNat, UnpackedFloat.ofInt, UnpackedFloat.normalize, hcompare]
      rfl
    have hk : k = 52 - n.log2 := by
      show (0 - Format.binary64.targetExponent (totalExponent n 0)).toNat = _
      rw [targetExponent_eq]
      omega
    have hbits : 52 ≤ (n <<< k).log2 ∨ (0 : ℤ) - k ≤ -1074 := by
      have hlow := Nat.log2_self_le hn
      rw [Nat.shiftLeft_eq, Nat.le_log2 (Nat.mul_ne_zero hn (Nat.two_pow_pos k).ne')]
      left
      calc 2 ^ 52 ≤ 2 ^ (n.log2 + k) := Nat.pow_le_pow_right (by decide) (by omega)
        _ = 2 ^ n.log2 * 2 ^ k := Nat.pow_add ..
        _ ≤ n * 2 ^ k := Nat.mul_le_mul_right _ hlow
    have hvalue : ((n <<< k : Nat) : ℚ) * 2 ^ ((0 : ℤ) - k) = n := by
      rw [Nat.shiftLeft_eq, zero_sub, zpow_neg, zpow_natCast]
      push_cast
      exact mul_inv_cancel_right₀ (by positivity) _
    have hsize := size_round .exact .positive hbits
    rw [hvalue] at hsize
    rw [hround]
    exact ⟨isRounded_round .exact .positive hbits, hsize⟩

/-- A product of rounded numbers is rounded. -/
theorem mul_rounded {u v : UnpackedFloat} (hu : IsRounded u) (hv : IsRounded v) :
    IsRounded (mul .binary64 u v) ∧
      |size (mul .binary64 u v) - size u * size v| ≤ roundingError (size u * size v) := by
  have hzero : |0 - size u * size v| ≤ roundingError (size u * size v) ∨ 0 < size u * size v := by
    rcases (mul_nonneg (size_nonneg u) (size_nonneg v)).eq_or_lt with h | h
    · rw [← h, sub_zero, abs_zero]
      exact .inl (roundingError_nonneg le_rfl)
    · exact .inr h
  cases u with
  | infinity | notANumber => exact hu.elim
  | zero s =>
      cases v with
      | infinity | notANumber => exact hv.elim
      | zero | finite => exact ⟨trivial, hzero.resolve_right (by simp [size])⟩
  | finite s₁ m₁ e₁ h₁ =>
      cases v with
      | infinity | notANumber => exact hv.elim
      | zero => exact ⟨trivial, hzero.resolve_right (by simp [size])⟩
      | finite s₂ m₂ e₂ h₂ =>
          obtain ⟨-, -, hu⟩ := hu
          obtain ⟨-, -, hv⟩ := hv
          have hbits : 52 ≤ (m₁ * m₂).log2 ∨ e₁ + e₂ ≤ -1074 := by
            by_cases hmin : e₁ + e₂ ≤ -1074
            · exact .inr hmin
            · have hle : 2 ^ 52 ≤ m₁ * m₂ := by
                rcases hu with hu | hu
                · exact Nat.le_trans hu (Nat.le_mul_of_pos_right _ h₂)
                · have hv : 2 ^ 52 ≤ m₂ := hv.resolve_right (by omega)
                  exact Nat.le_trans hv (Nat.le_mul_of_pos_left _ h₁)
              exact .inl ((Nat.le_log2 (by positivity)).mpr hle)
          have hvalue : ((m₁ * m₂ : Nat) : ℚ) * 2 ^ (e₁ + e₂)
              = size (.finite s₁ m₁ e₁ h₁) * size (.finite s₂ m₂ e₂ h₂) := by
            rw [size, size, zpow_add₀ (by norm_num)]
            push_cast
            ring
          have hsize := size_round .exact (s₁ * s₂) hbits
          rw [hvalue] at hsize
          exact ⟨isRounded_round .exact (s₁ * s₂) hbits, hsize⟩

/-- A power of ten is rounded. -/
theorem tenPow_rounded {k : ℕ} (hk : k ≤ 308) :
    IsRounded (UnpackedFloat.ofScientific .binary64 1 k) ∧
      |size (UnpackedFloat.ofScientific .binary64 1 k) - 10 ^ k| ≤ roundingError (10 ^ k) := by
  have hround : UnpackedFloat.ofScientific .binary64 1 k
      = roundWithAccuracy .binary64 .positive (2 ^ 53 * 10 ^ k) (-53) .exact := by
    rw [UnpackedFloat.ofScientific, dif_neg Nat.one_ne_zero, if_neg (by norm_num; omega),
      if_neg (by norm_num; omega), if_pos (by omega)]
    rfl
  have hbits : 52 ≤ (2 ^ 53 * 10 ^ k).log2 ∨ (-53 : ℤ) ≤ -1074 := by
    rw [Nat.le_log2 (by positivity)]
    exact .inl (le_trans (by decide) (Nat.le_mul_of_pos_right (2 ^ 53) (by positivity)))
  have hvalue : ((2 ^ 53 * 10 ^ k : ℕ) : ℚ) * 2 ^ (-53 : ℤ) = 10 ^ k := by
    push_cast
    norm_num
    ring
  have hsize := size_round .exact .positive hbits
  rw [hvalue] at hsize
  rw [hround]
  exact ⟨isRounded_round .exact .positive hbits, hsize⟩

section
variable {m₁ m₂ k : ℕ} {e₁ e₂ t : ℤ}

/-- The dividend is shifted far enough for a quotient of 53 bits. -/
theorem quotient_log2 (h₁ : 0 < m₁) (h₂ : 0 < m₂) (hk : (k : ℤ) = e₁ - e₂ - t)
    (ht : t ≤ max ((m₁.log2 : ℤ) + e₁ - (m₂.log2 + e₂) - 53) (-1074)) :
    52 ≤ ((m₁ <<< k) / m₂).log2 ∨ t ≤ -1074 := by
  by_cases hmin : t ≤ -1074
  · exact .inr hmin
  · have hle : 2 ^ 52 ≤ (m₁ <<< k) / m₂ := by
      rw [Nat.le_div_iff_mul_le h₂, Nat.shiftLeft_eq]
      calc 2 ^ 52 * m₂ ≤ 2 ^ 52 * 2 ^ (m₂.log2 + 1) := Nat.mul_le_mul_left _ Nat.lt_log2_self.le
        _ = 2 ^ (52 + (m₂.log2 + 1)) := (Nat.pow_add ..).symm
        _ ≤ 2 ^ (m₁.log2 + k) := Nat.pow_le_pow_right (by decide) (by omega)
        _ = 2 ^ m₁.log2 * 2 ^ k := Nat.pow_add ..
        _ ≤ m₁ * 2 ^ k := Nat.mul_le_mul_right _ (Nat.log2_self_le h₁.ne')
    exact .inl ((Nat.le_log2 (by omega)).mpr hle)

/-- The quotient of the shifted dividend is no more than that of the numbers. -/
theorem quotient_le (h₂ : 0 < m₂) (hk : (k : ℤ) = e₁ - e₂ - t) :
    (((m₁ <<< k) / m₂ : ℕ) : ℚ) * 2 ^ t ≤ m₁ * 2 ^ e₁ / (m₂ * 2 ^ e₂) := by
  have h₂' : (0 : ℚ) < m₂ := by exact_mod_cast h₂
  have hfloor : (((m₁ <<< k) / m₂ : ℕ) : ℚ) ≤ m₁ * 2 ^ k / m₂ := by
    refine Nat.cast_div_le.trans (le_of_eq ?_)
    rw [Nat.shiftLeft_eq]
    push_cast
    rfl
  have hsplit : (2 : ℚ) ^ e₁ = 2 ^ k * 2 ^ t * 2 ^ e₂ := by
    rw [← zpow_natCast, ← zpow_add₀ (by norm_num), ← zpow_add₀ (by norm_num), hk]
    congr 1
    omega
  calc (((m₁ <<< k) / m₂ : ℕ) : ℚ) * 2 ^ t ≤ m₁ * 2 ^ k / m₂ * 2 ^ t := by gcongr
    _ = m₁ * 2 ^ e₁ / (m₂ * 2 ^ e₂) := by rw [hsplit]; field_simp

end

/-- A quotient of rounded numbers is rounded. -/
theorem div_rounded {u v : UnpackedFloat} (hu : IsRounded u) (hv : IsRounded v)
    (hne : size v ≠ 0) :
    IsRounded (div .binary64 u v) ∧
      size (div .binary64 u v) ≤ size u / size v + roundingError (size u / size v) := by
  have hquotient : 0 ≤ size u / size v := div_nonneg (size_nonneg u) (size_nonneg v)
  cases v with
  | infinity | notANumber => exact hv.elim
  | zero => exact absurd rfl hne
  | finite s₂ m₂ e₂ h₂ =>
      cases u with
      | infinity | notANumber => exact hu.elim
      | zero => exact ⟨trivial, add_nonneg hquotient (roundingError_nonneg hquotient)⟩
      | finite s₁ m₁ e₁ h₁ =>
          let t := min (e₁ - e₂)
            (Format.binary64.targetExponent (totalExponent m₁ e₁ - totalExponent m₂ e₂))
          let k := (e₁ - e₂ - t).toNat
          have hdiv : div .binary64 (.finite s₁ m₁ e₁ h₁) (.finite s₂ m₂ e₂ h₂)
              = roundWithAccuracy .binary64 (s₁ / s₂) ((m₁ <<< k) / m₂) t
                (accuracyOfFraction ((m₁ <<< k) % m₂) m₂) := rfl
          have ht : t ≤ max ((m₁.log2 : ℤ) + e₁ - (m₂.log2 + e₂) - 53) (-1074) := by
            refine (min_le_right _ _).trans (le_of_eq ?_)
            simp only [Format.targetExponent, totalExponent, Format.mantissaBits,
              Format.minExponent]
            norm_num
            omega
          have hk : (k : ℤ) = e₁ - e₂ - t :=
            Int.toNat_of_nonneg (sub_nonneg.mpr (min_le_left _ _))
          have hbits := quotient_log2 h₁ h₂ hk ht
          have hvalue : (((m₁ <<< k) / m₂ : ℕ) : ℚ) * 2 ^ t ≤ m₁ * 2 ^ e₁ / (m₂ * 2 ^ e₂) :=
            quotient_le h₂ hk
          have hsize := (abs_sub_le_iff.mp (size_round
            (accuracyOfFraction ((m₁ <<< k) % m₂) m₂) (s₁ / s₂) hbits)).1
          rw [hdiv]
          refine ⟨isRounded_round _ _ hbits, ?_⟩
          rw [roundingError] at hsize ⊢
          rw [size, size] at *
          have hε : (0 : ℚ) < 2 ^ (-52 : ℤ) := by positivity
          nlinarith

/-! ### Packing into 64 bits -/

/-- The first bit of a number with all of its 53 bits. -/
theorem toNat_leading (mantissa : BitVec 52) :
    (1#1 ++ mantissa).toNat = 2 ^ 52 + mantissa.toNat := by
  rw [BitVec.toNat_append, ← Nat.shiftLeft_add_eq_or_of_lt mantissa.isLt]
  rfl

/-- Infinity is unpacked as infinity. -/
theorem unpack_packedInfinity (s : Sign) :
    UnpackedFloat.unpack .binary64 (packedInfinity .binary64 s) = .infinity s := by
  rw [packedInfinity, UnpackedFloat.unpack]
  simp only [unpackExponent_packComponents, unpackMantissa_packComponents,
    unpackSign_packComponents, Sign.ofBitVec_toBitVec, if_true]
  rfl

section
variable {s : Sign} {m : Nat} {e : Int} {hm : 0 < m}

/-- The exponent is packed with an offset. -/
theorem biased_eq (e : Int) :
    (e + Format.binary64.exponentBias + (52 : Nat)).toNat = (e + 1075).toNat := by
  show (e + (1023 : Nat) + (52 : Nat)).toNat = _
  omega

/-- An exponent that is too large is packed as infinity. -/
theorem unpack_pack_of_overflow (he : 972 ≤ e) :
    (Float.Model.pack (.finite s m e hm)).unpack = .infinity s := by
  show UnpackedFloat.unpack _ (UnpackedFloat.pack _ (.finite s m e hm)) = _
  rw [UnpackedFloat.pack]
  simp only [biased_eq]
  rw [if_pos (by omega), unpack_packedInfinity]

/-- A number with all of its 53 bits. The first of them is not packed. -/
theorem unpack_pack_normal (hlow : 2 ^ 52 ≤ m) (hhigh : m < 2 ^ 53) (hmin : -1074 ≤ e)
    (hmax : e ≤ 971) : (Float.Model.pack (.finite s m e hm)).unpack = .finite s m e hm := by
  have hlog : m.log2 = 52 := (Nat.log2_eq_iff hm.ne').mpr ⟨hlow, hhigh⟩
  have hbits : (BitVec.ofNat 11 (e + 1075).toNat).toNat = (e + 1075).toNat := by
    rw [BitVec.toNat_ofNat, Nat.mod_eq_of_lt (by omega)]
  have hinfinite : BitVec.ofNat 11 (e + 1075).toNat ≠ -1#11 := fun heq => by
    have h := congrArg BitVec.toNat heq
    rw [hbits] at h
    have : (-1#11).toNat = 2047 := rfl
    omega
  have hsubnormal : BitVec.ofNat 11 (e + 1075).toNat ≠ 0#11 := fun heq => by
    have h := congrArg BitVec.toNat heq
    rw [hbits] at h
    have : (0#11).toNat = 0 := rfl
    omega
  have hmantissa : (1#1 ++ BitVec.ofNat 52 m).toNat = m := by
    rw [toNat_leading, BitVec.toNat_ofNat]
    omega
  have hexponent : ((e + 1075).toNat : Int) - ((1023 : Nat) + (52 : Nat)) = e := by omega
  show UnpackedFloat.unpack _ (UnpackedFloat.pack _ (.finite s m e hm)) = _
  rw [UnpackedFloat.pack]
  simp only [biased_eq, hlog]
  rw [if_neg (by omega), if_pos (by decide), UnpackedFloat.unpack]
  simp only [unpackMantissa_packComponents, unpackExponent_packComponents,
    unpackSign_packComponents, Sign.ofBitVec_toBitVec]
  rw [if_neg hinfinite, if_neg hsubnormal]
  simp only [hmantissa, hbits]
  exact congrArg (UnpackedFloat.finite s m · hm) hexponent

/-- A number with fewer bits. -/
theorem unpack_pack_subnormal (hhigh : m < 2 ^ 52) :
    (Float.Model.pack (.finite s m (-1074) hm)).unpack = .finite s m (-1074) hm := by
  have hlog : m.log2 < 52 := (Nat.log2_lt hm.ne').mpr hhigh
  have hbits : (BitVec.ofNat 52 m).toNat = m := by
    rw [BitVec.toNat_ofNat, Nat.mod_eq_of_lt hhigh]
  have hmantissa : BitVec.ofNat 52 m ≠ 0#52 := fun heq => by
    have h := congrArg BitVec.toNat heq
    rw [hbits] at h
    exact hm.ne' h
  show UnpackedFloat.unpack _ (UnpackedFloat.pack _ (.finite s m (-1074) hm)) = _
  rw [UnpackedFloat.pack]
  simp only [biased_eq]
  rw [if_neg (by decide), if_neg (by show m.log2 + 1 ≠ 53; omega), UnpackedFloat.unpack]
  simp only [unpackMantissa_packComponents, unpackExponent_packComponents,
    unpackSign_packComponents, Sign.ofBitVec_toBitVec]
  rw [if_neg (by decide), if_pos trivial, dif_neg hmantissa]
  simp only [hbits]
  rfl

end

/-- A rounded number is unpacked as it was packed, or as infinity if it is too large. -/
theorem unpack_pack {u : UnpackedFloat} (h : IsRounded u) :
    (Float.Model.pack u).unpack = u ∨
      (∃ s, (Float.Model.pack u).unpack = .infinity s) ∧ 2 ^ 1024 ≤ size u := by
  cases u with
  | infinity | notANumber => exact h.elim
  | zero s =>
      refine .inl ?_
      cases s <;> rfl
  | finite s m e hm =>
      obtain ⟨hbits, hmin, hnormal⟩ := h
      by_cases hmax : 972 ≤ e
      case pos =>
        refine .inr ⟨⟨s, unpack_pack_of_overflow hmax⟩, ?_⟩
        have hm' : (2 : ℚ) ^ 52 ≤ m := by exact_mod_cast hnormal.resolve_right (by omega)
        have he : (2 : ℚ) ^ (972 : ℤ) ≤ 2 ^ e := zpow_le_zpow_right₀ (by norm_num) hmax
        have hsplit : (2 : ℚ) ^ 1024 = 2 ^ 52 * 2 ^ (972 : ℤ) := by
          rw [pow_add 2 52 972]
          rfl
        rw [size, hsplit]
        gcongr
      case neg =>
        refine .inl ?_
        by_cases hlow : 2 ^ 52 ≤ m
        · exact unpack_pack_normal hlow hbits hmin (by omega)
        · obtain rfl : e = -1074 := hnormal.resolve_left hlow
          exact unpack_pack_subnormal (by omega)

/-! ### Finite numbers -/

/-- The number that a float stands for, without its sign. -/
def magnitude (x : Float) : ℚ :=
  size x.toModel.unpack

/-- With 53 bits and the largest exponent of the format a number stays below 2^1024. -/
theorem size_lt {m : Nat} {e : Int} (hm : m < 2 ^ 53) (he : e ≤ 971) :
    (m : ℚ) * 2 ^ e < 2 ^ 1024 := by
  have hm' : (m : ℚ) < 2 ^ 53 := by exact_mod_cast hm
  have he' : (2 : ℚ) ^ e ≤ 2 ^ (971 : ℤ) := zpow_le_zpow_right₀ (by norm_num) he
  have hsplit : (2 : ℚ) ^ 1024 = 2 ^ 53 * 2 ^ (971 : ℤ) := by
    rw [pow_add 2 53 971]
    rfl
  rw [hsplit]
  calc (m : ℚ) * 2 ^ e < 2 ^ 53 * 2 ^ e := mul_lt_mul_of_pos_right hm' (by positivity)
    _ ≤ 2 ^ 53 * 2 ^ (971 : ℤ) := mul_le_mul_of_nonneg_left he' (by positivity)

/-- What is unpacked from a finite float. -/
theorem isRounded_of_isFinite {x : Float} (h : x.isFinite = true) :
    IsRounded x.toModel.unpack ∧ magnitude x < 2 ^ 1024 := by
  rw [magnitude]
  change x.toModel.unpack.isFinite = true at h
  unfold Float.Model.unpack UnpackedFloat.unpack at h ⊢
  have hmantissa := (@unpackMantissa .binary64 x.toModel.toBits.toBitVec).isLt
  have hexponent := (@unpackExponent .binary64 x.toModel.toBits.toBitVec).isLt
  have hbias : ((Format.binary64.exponentBias : Nat) : Int) = 1023 := rfl
  dsimp only at h hmantissa hexponent ⊢
  split_ifs at h ⊢ with hinfinite hzero hsubnormal hzero
  · exact absurd h Bool.false_ne_true
  · exact absurd h Bool.false_ne_true
  · refine ⟨trivial, ?_⟩
    show (0 : ℚ) < 2 ^ 1024
    positivity
  · have hexponent : (@unpackExponent .binary64 x.toModel.toBits.toBitVec).toNat = 0 :=
      congrArg BitVec.toNat hsubnormal
    refine ⟨⟨?_, ?_, ?_⟩, size_lt ?_ ?_⟩ <;> omega
  · have hlow : (@unpackExponent .binary64 x.toModel.toBits.toBitVec).toNat ≠ 0 :=
      fun heq => hsubnormal (BitVec.eq_of_toNat_eq heq)
    have hhigh : (@unpackExponent .binary64 x.toModel.toBits.toBitVec).toNat ≠ 2047 :=
      fun heq => hinfinite (BitVec.eq_of_toNat_eq heq)
    have hbits := toNat_leading (@unpackMantissa .binary64 x.toModel.toBits.toBitVec)
    refine ⟨⟨?_, ?_, ?_⟩, size_lt ?_ ?_⟩ <;> omega

/-- A rounded number below 2^1024 is packed as a finite float, any other one as infinity. -/
theorem isFinite_pack {u : UnpackedFloat} (h : IsRounded u) :
    (Float.ofModel (.pack u)).isFinite = true ∧ magnitude (.ofModel (.pack u)) = size u ∨
      (Float.ofModel (.pack u)).isInf = true ∧ 2 ^ 1024 ≤ size u := by
  rcases unpack_pack h with hu | ⟨⟨s, hs⟩, hsize⟩
  · refine .inl ⟨?_, congrArg size hu⟩
    show (Float.Model.pack u).unpack.isFinite = true
    rw [hu]
    cases u with
    | infinity | notANumber => exact h.elim
    | zero | finite => rfl
  · refine .inr ⟨?_, hsize⟩
    show (Float.Model.pack u).unpack.isInf = true
    rw [hs]
    rfl

/-- A rounded number is packed as a finite float where it is below 2^1024. -/
theorem isFinite_pack_of_lt {u : UnpackedFloat} (h : IsRounded u) (hlt : size u < 2 ^ 1024) :
    (Float.ofModel (.pack u)).isFinite = true ∧ magnitude (.ofModel (.pack u)) = size u :=
  (isFinite_pack h).resolve_right fun hinfinite => absurd hinfinite.2 (not_le.mpr hlt)

/-- A number near one that leaves room below 2^1024 is packed as a finite float near it. -/
theorem finite_of_near {u : UnpackedFloat} {x : ℚ} (h : IsRounded u) (hx : 0 ≤ x)
    (hnear : |size u - x| ≤ roundingError x) (hroom : 3 / 2 * x + 1 < 2 ^ 1024) :
    (Float.ofModel (.pack u)).isFinite = true ∧
      |magnitude (.ofModel (.pack u)) - x| ≤ roundingError x := by
  have hup := (abs_sub_le_iff.mp hnear).1
  have herror := roundingError_le hx
  have hlt : size u < 2 ^ 1024 := by
    refine lt_of_le_of_lt ?_ hroom
    linarith only [hup, herror]
  obtain ⟨hfinite, hmagnitude⟩ := isFinite_pack_of_lt h hlt
  rw [hmagnitude]
  exact ⟨hfinite, hnear⟩

/-- The float of a 64-bit number. -/
theorem toFloat_spec (n : UInt64) :
    n.toFloat.isFinite = true ∧ |magnitude n.toFloat - n.toNat| ≤ roundingError n.toNat := by
  obtain ⟨hrounded, hsize⟩ := ofNat_rounded n.toNat
  have hn : (n.toNat : ℚ) ≤ 2 ^ 64 := by exact_mod_cast n.toNat_lt.le
  have hpow : (2 : ℚ) ^ 65 ≤ 2 ^ 1024 := pow_le_pow_right₀ (by norm_num) (by decide)
  refine finite_of_near hrounded (Nat.cast_nonneg _) hsize (lt_of_lt_of_le ?_ hpow)
  linarith only [hn]

/-- The product of two finite floats, unless it is too large. -/
theorem mul_spec {x y : Float} (hx : x.isFinite = true) (hy : y.isFinite = true) :
    (x * y).isFinite = true ∨ (x * y).isInf = true ∧
      2 ^ 1024 ≤ magnitude x * magnitude y + roundingError (magnitude x * magnitude y) := by
  obtain ⟨hrounded, hsize⟩ := mul_rounded (isRounded_of_isFinite hx).1 (isRounded_of_isFinite hy).1
  rcases isFinite_pack hrounded with ⟨hfinite, -⟩ | ⟨hinfinite, hlarge⟩
  · exact .inl hfinite
  · refine .inr ⟨hinfinite, hlarge.trans ?_⟩
    exact sub_le_iff_le_add'.mp (abs_sub_le_iff.mp hsize).1

/-- The quotient of a finite float by one that is at least two is finite. -/
theorem isFinite_div {x y : Float} (hx : x.isFinite = true) (hy : y.isFinite = true)
    (htwo : 2 ≤ magnitude y) : (x / y).isFinite = true := by
  obtain ⟨hxr, hxlt⟩ := isRounded_of_isFinite hx
  obtain ⟨hrounded, hsize⟩ := div_rounded hxr (isRounded_of_isFinite hy).1
    (show magnitude y ≠ 0 by linarith)
  have hnonneg : 0 ≤ magnitude x / magnitude y := div_nonneg (size_nonneg _) (size_nonneg _)
  have hquotient : magnitude x / magnitude y ≤ 2 ^ 1023 := by
    rw [div_le_iff₀ (by linarith)]
    exact (hxlt.le.trans_eq (pow_succ 2 1023)).trans
      (mul_le_mul_of_nonneg_left htwo (by positivity))
  have herror := roundingError_le hnonneg
  have hbig : (2 : ℚ) ^ 2 ≤ 2 ^ 1023 := pow_le_pow_right₀ (by norm_num) (by decide)
  have hlt : size (div .binary64 x.toModel.unpack y.toModel.unpack) < 2 ^ 1024 := by
    rw [pow_succ 2 1023]
    change _ ≤ magnitude x / magnitude y + roundingError (magnitude x / magnitude y) at hsize
    generalize (2 : ℚ) ^ 1023 = half at hquotient hbig ⊢
    linarith only [hsize, herror, hquotient, hbig]
  exact (isFinite_pack_of_lt hrounded hlt).1

/-- A finite float stays finite when its sign changes. -/
theorem isFinite_neg {x : Float} (hx : x.isFinite = true) : (-x).isFinite = true := by
  obtain ⟨hrounded, hlt⟩ := isRounded_of_isFinite hx
  have hneg : IsRounded x.toModel.unpack.neg ∧ size x.toModel.unpack.neg = magnitude x := by
    rw [magnitude]
    generalize x.toModel.unpack = u at hrounded ⊢
    cases u with
    | infinity | notANumber => exact hrounded.elim
    | zero => exact ⟨trivial, rfl⟩
    | finite => exact ⟨hrounded, rfl⟩
  exact (isFinite_pack_of_lt hneg.1 (hneg.2.trans_lt hlt)).1

/-- A finite float is not infinite. -/
theorem isInf_of_isFinite {x : Float} (hx : x.isFinite = true) : x.isInf = false := by
  show x.toModel.unpack.isInf = false
  change x.toModel.unpack.isFinite = true at hx
  cases hu : x.toModel.unpack with
  | infinity => simp [hu, UnpackedFloat.isFinite] at hx
  | notANumber | zero | finite => rfl

end LedgerSearch.Decimal
