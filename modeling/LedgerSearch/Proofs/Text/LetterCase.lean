import LedgerSearch.Proofs.Text.Bytes
import LedgerSearch.Proofs.Text.LowerCase
import LedgerSearch.Proofs.Text.Words

/-!
# `LedgerSearch.Proofs.Text.LetterCase`: texts that differ in the case of ASCII letters

Two texts are written in the same letters (`SameLetters`) when they become equal once the ASCII
capitals of both are made small. `Char.toLower` knows no other capitals, so this is a narrower
relation than to have the same lower-case form: `É` and `é` are two different letters here.

Whatever looks at characters one by one sees no difference between such texts, as long as it treats
the two cases of an ASCII letter alike. To check that for a property of characters is to check 26
pairs of code points (`apply_toLower`). The one thing that does not go character by character is the
lower-case form, because of the final sigma. It asks of the neighbours only whether they have a case
and whether they are looked through, and both cases of a letter answer that alike
(`lowerAfter_map_toLower`).
-/

set_option autoImplicit false

namespace LedgerSearch.Text

/-- The text with its ASCII capitals made small. -/
def smallLetters (s : String) : String :=
  String.ofList (s.toList.map Char.toLower)

/-- The texts differ at most in the case of ASCII letters. -/
def SameLetters (s s' : String) : Prop :=
  s.toList.map Char.toLower = s'.toList.map Char.toLower

theorem sameLetters_iff {s s' : String} : SameLetters s s' ↔ smallLetters s = smallLetters s' :=
  String.ofList_inj.symm

/-! ### Properties of characters -/

/-- Small letters are 32 code points behind their capitals, and nothing else is changed. -/
theorem toLower_cases (c : Char) :
    c.toLower = c ∨ ∃ n < 26, c = Char.ofNat (0x41 + n) ∧ c.toLower = Char.ofNat (0x61 + n) := by
  have hA : 'A'.val.toNat = 65 := rfl
  have hZ : 'Z'.val.toNat = 90 := rfl
  unfold Char.toLower
  simp only [UInt32.le_iff_toNat_le, ge_iff_le]
  split
  case isFalse => exact .inl rfl
  case isTrue h =>
    have hcode : c.val.toNat = c.toNat := rfl
    have hdown : ('a'.val - 'A'.val).toNat = 32 := rfl
    refine .inr ⟨c.toNat - 0x41, by omega, ?_, ?_⟩
    · rw [show 0x41 + (c.toNat - 0x41) = c.toNat by omega, Char.ofNat_toNat]
    · have hvalid : (0x61 + (c.toNat - 0x41)).isValidChar := .inl (by omega)
      rw [Char.ext_iff, ← UInt32.toNat_inj]
      show (c.val + ('a'.val - 'A'.val)).toNat = (Char.ofNat (0x61 + (c.toNat - 0x41))).toNat
      rw [toNat_ofNat hvalid, UInt32.toNat_add, hdown]
      omega

/-- A property of characters that treats the two cases of every ASCII letter alike. -/
theorem apply_toLower {α : Type} (f : Char → α)
    (h : ∀ n < 26, f (Char.ofNat (0x61 + n)) = f (Char.ofNat (0x41 + n))) (c : Char) :
    f c.toLower = f c := by
  obtain hself | ⟨n, hn, hcapital, hsmall⟩ := toLower_cases c
  · rw [hself]
  · rw [hsmall, hcapital]
    exact h n hn

/-- The two cases of an ASCII letter differ in none of the properties that the library asks for one
by one. -/
theorem letters_checked : ∀ n < 26,
    let small := Char.ofNat (0x61 + n)
    let capital := Char.ofNat (0x41 + n)
    (small.isAlpha = true ∧ capital.isAlpha = true) ∧
      isBlank small = isBlank capital ∧ small.utf8Size = capital.utf8Size ∧
      small.toUpper = capital.toUpper ∧ isCased small = isCased capital ∧
      lowerChar small = lowerChar capital := by
  decide

theorem isBlank_toLower (c : Char) : isBlank c.toLower = isBlank c :=
  apply_toLower isBlank (fun n hn => (letters_checked n hn).2.1) c

theorem utf8Size_toLower (c : Char) : c.toLower.utf8Size = c.utf8Size :=
  apply_toLower Char.utf8Size (fun n hn => (letters_checked n hn).2.2.1) c

theorem toUpper_toLower (c : Char) : c.toLower.toUpper = c.toUpper :=
  apply_toLower Char.toUpper (fun n hn => (letters_checked n hn).2.2.2.1) c

theorem isCased_toLower (c : Char) : isCased c.toLower = isCased c :=
  apply_toLower isCased (fun n hn => (letters_checked n hn).2.2.2.2.1) c

theorem lowerChar_toLower_eq (c : Char) : lowerChar c.toLower = lowerChar c :=
  apply_toLower lowerChar (fun n hn => (letters_checked n hn).2.2.2.2.2) c

/-- The ranges of case-ignorable characters lie before the capitals of ASCII, between them and the
small letters, or behind these. -/
theorem caseIgnorableRanges_checked :
    (caseIgnorableRanges.all fun range =>
      Nat.blt range.2 0x41 || Nat.blt 0x5a range.1 && Nat.blt range.2 0x61
        || Nat.blt 0x7a range.1) = true := by
  decide +kernel

/-- No letter of ASCII is looked through. -/
theorem isCaseIgnorable_letter {n : Nat} (h : 0x41 ≤ n ∧ n ≤ 0x5a ∨ 0x61 ≤ n ∧ n ≤ 0x7a) :
    isCaseIgnorable (Char.ofNat n) = false := by
  have hcode : (Char.ofNat n).toNat = n := toNat_ofNat (.inl (by omega))
  rw [isCaseIgnorable, ← Bool.not_eq_true, CodeRanges.has_iff, hcode]
  rintro ⟨range, hrange, hfirst, hlast⟩
  have hapart := List.all_eq_true.mp caseIgnorableRanges_checked range hrange
  simp only [Bool.or_eq_true, Bool.and_eq_true, Nat.blt_eq] at hapart
  omega

theorem isCaseIgnorable_toLower (c : Char) : isCaseIgnorable c.toLower = isCaseIgnorable c := by
  refine apply_toLower isCaseIgnorable (fun n hn => ?_) c
  rw [isCaseIgnorable_letter (by omega), isCaseIgnorable_letter (by omega)]

/-- A character that is no letter of ASCII comes from itself alone. -/
theorem toLower_eq_iff {c d : Char} (hd : d.isAlpha = false) : c.toLower = d ↔ c = d := by
  have hne : ∀ letter : Char, letter.isAlpha = true → (letter = d) = False := by
    intro letter hletter
    refine eq_false ?_
    rintro rfl
    rw [hd] at hletter
    cases hletter
  refine iff_of_eq (apply_toLower (· = d) (fun n hn => ?_) c)
  obtain ⟨⟨hsmall, hcapital⟩, -⟩ := letters_checked n hn
  rw [hne _ hsmall, hne _ hcapital]

theorem toLower_beq {c d : Char} (hd : d.isAlpha = false) : (c.toLower == d) = (c == d) := by
  rw [Bool.eq_iff_iff, beq_iff_eq, beq_iff_eq, toLower_eq_iff hd]

/-! ### Texts -/

theorem byteLength_map_toLower (cs : List Char) :
    byteLength (cs.map Char.toLower) = byteLength cs := by
  induction cs with
  | nil => rfl
  | cons c cs ih => rw [List.map_cons, byteLength, byteLength, ih, utf8Size_toLower]

theorem casedNext_map_toLower (cs : List Char) :
    casedNext (cs.map Char.toLower) = casedNext cs := by
  have hskip : isCaseIgnorable ∘ Char.toLower = isCaseIgnorable :=
    funext isCaseIgnorable_toLower
  rw [casedNext, casedNext, List.dropWhile_map, hskip]
  cases cs.dropWhile isCaseIgnorable with
  | nil => rfl
  | cons c rest => exact isCased_toLower c

/-- The lower-case form of a text hides the case of its ASCII letters, that of the neighbours of a
sigma included. -/
theorem lowerAfter_map_toLower (afterCased : Bool) (cs : List Char) :
    lowerAfter afterCased (cs.map Char.toLower) = lowerAfter afterCased cs := by
  induction cs generalizing afterCased with
  | nil => rfl
  | cons c cs ih =>
      have hsigma : c.toLower = 'Σ' ↔ c = 'Σ' := toLower_eq_iff (by decide)
      simp only [List.map_cons, lowerAfter_cons, hsigma, casedNext_map_toLower,
        lowerChar_toLower_eq, isCaseIgnorable_toLower, isCased_toLower, ih]

theorem lower_smallLetters (s : String) : lower (smallLetters s) = lower s := by
  rw [lower, lower, smallLetters, String.toList_ofList, lowerAfter_map_toLower]

theorem SameLetters.lower_eq {s s' : String} (h : SameLetters s s') : lower s = lower s' := by
  rw [← lower_smallLetters s, ← lower_smallLetters s', sameLetters_iff.mp h]

theorem SameLetters.utf8ByteSize_eq {s s' : String} (h : SameLetters s s') :
    s.utf8ByteSize = s'.utf8ByteSize := by
  rw [← byteLength_toList, ← byteLength_toList, ← byteLength_map_toLower s.toList,
    ← byteLength_map_toLower s'.toList, show s.toList.map Char.toLower = _ from h]

/-- The words of a text with small letters are its words with small letters. -/
theorem words_smallLetters (s : String) :
    words (smallLetters s) = (words s).map smallLetters := by
  have h := words_map isBlank_toLower s.toList
  rwa [String.ofList_toList] at h

end LedgerSearch.Text
