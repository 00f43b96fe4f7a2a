import LedgerSearch.Text.LowerCase

/-!
# `LedgerSearch.Proofs.Text.LowerCase`: lower case is final

A text in lower case has no other lower-case form than itself (`lower_lower`), and the shortcut that
`fold` takes changes nothing (`fold_eq_lower`). So a term that was folded once may be folded again
without a change, which is what lets an expression be folded before many documents are asked.

Both come down to one property of the table: no lower-case form is itself a capital of the table.
Compared character by character that is a question about tens of thousands of code points. Compared
run by run it is one about 185 pairs of intervals, and `LowerRun.misses` is the test for a pair.
The forms of a run and the capitals of another either lie apart or, where capitals and small letters
alternate, fall on code points of different parity.
-/

set_option autoImplicit false

namespace LedgerSearch.Text

/-! ### The table -/

/-- The code point of the lower-case form of a capital of the run. -/
def LowerRun.form (run : LowerRun) (n : Nat) : Nat :=
  (n + run.shift).toNat

/-- The forms of the run are code points of characters. -/
def LowerRun.isSound (run : LowerRun) : Bool :=
  0 ≤ run.first + run.shift
    && (run.form run.last < 0xd800
      || (0xdfff < run.form run.first && run.form run.last < 0x110000))

/-- The test that no form of `run` is a capital of `other`. Its comparisons are the ones that the
kernel computes at once, as it is asked for every two runs of the table. -/
def LowerRun.misses (run other : LowerRun) : Bool :=
  Nat.blt (run.form run.last) other.first || Nat.blt other.last (run.form run.first)
    || (Nat.beq other.step 2 && (Nat.beq run.step 2 || Nat.beq run.first run.last)
      && Nat.beq ((run.form run.first + other.first) % 2) 1)

theorem LowerRun.has_iff {run : LowerRun} {n : Nat} :
    run.has n = true ↔ (run.first ≤ n ∧ n ≤ run.last) ∧ (n - run.first) % run.step = 0 := by
  simp [LowerRun.has]

/-- A form of a run that misses another is no capital of the other. -/
theorem LowerRun.has_form_of_misses {run other : LowerRun} {n : Nat}
    (hsound : run.isSound = true) (hmiss : run.misses other = true) (hn : run.has n = true) :
    other.has (run.form n) = false := by
  obtain ⟨⟨hfirst, hlast⟩, hstep⟩ := LowerRun.has_iff.mp hn
  have hnonneg : 0 ≤ run.first + run.shift := by
    simp only [LowerRun.isSound, Bool.and_eq_true, decide_eq_true_eq] at hsound
    exact hsound.1
  simp only [LowerRun.misses, LowerRun.form, Bool.or_eq_true, Bool.and_eq_true, Nat.blt_eq,
    Nat.beq_eq] at hmiss
  -- suppose the form is a capital of the other run after all
  refine Bool.eq_false_iff.mpr fun hhas => ?_
  rw [LowerRun.has_iff, LowerRun.form] at hhas
  obtain ⟨⟨hfirst', hlast'⟩, hstep'⟩ := hhas
  obtain (hbelow | habove) | ⟨⟨htwo, hrun⟩, hodd⟩ := hmiss
  · omega
  · omega
  · rw [htwo] at hstep'
    -- a run of a single capital goes in twos as well as in ones
    have heven : (n - run.first) % 2 = 0 := by
      obtain hrun | hrun := hrun
      · rwa [hrun] at hstep
      · omega
    omega

/-- In ASCII only the capitals of the first run have another small letter, and a small letter has no
further form. -/
theorem ascii_checked : ∀ n < 0x80,
    (LowerRun.has ⟨0x41, 0x5a, 1, 32⟩ n = false → (Char.ofNat n).toLower = Char.ofNat n) ∧
      lowerChar (Char.ofNat n).toLower = [(Char.ofNat n).toLower] := by
  decide

/-- The forms that are not in the table have no further form: those of U+0130 and those of the
capital sigma, which is a capital. -/
theorem otherForms_checked :
    (lowerChar 'i' = ['i'] ∧ lowerChar (Char.ofNat 0x307) = [Char.ofNat 0x307]) ∧
      lowerChar 'ς' = ['ς'] ∧ lowerChar 'σ' = ['σ'] ∧ lowerChar 'Σ' ≠ ['Σ'] := by
  decide

/-- The runs of the table have characters for forms, and each misses all of them and U+0130. -/
theorem lowerRuns_checked :
    (lowerRuns.all fun run =>
      run.isSound && run.misses ⟨0x130, 0x130, 1, 0⟩ && lowerRuns.all run.misses) = true := by
  decide +kernel

theorem toNat_ofNat {n : Nat} (h : n.isValidChar) : (Char.ofNat n).toNat = n := by
  rw [Char.ofNat, dif_pos h]
  rfl

/-- The form of a capital of the table is the code point of a character, and of none that has
another form. -/
theorem lowerRun_form {run : LowerRun} (hrun : run ∈ lowerRuns) {n : Nat}
    (hn : run.has n = true) :
    (run.form n).isValidChar ∧ run.form n ≠ 0x130 ∧
      ∀ other ∈ lowerRuns, other.has (run.form n) = false := by
  obtain ⟨⟨hsound, hdotted⟩, hall⟩ :
      (run.isSound = true ∧ run.misses ⟨0x130, 0x130, 1, 0⟩ = true) ∧
        ∀ other ∈ lowerRuns, run.misses other = true := by
    have hrow := List.all_eq_true.mp lowerRuns_checked run hrun
    simpa using hrow
  refine ⟨?_, ?_, fun other hother => LowerRun.has_form_of_misses hsound (hall other hother) hn⟩
  · obtain ⟨⟨hfirst, hlast⟩, -⟩ := LowerRun.has_iff.mp hn
    simp only [LowerRun.isSound, Bool.or_eq_true, Bool.and_eq_true, decide_eq_true_eq] at hsound
    simp only [LowerRun.form, Nat.isValidChar] at hsound ⊢
    omega
  · intro heq
    -- U+0130 is treated as a run of its own
    have := LowerRun.has_form_of_misses hsound hdotted hn
    simp [LowerRun.has, heq] at this

/-! ### Characters -/

/-- Every character has a form. -/
theorem lowerChar_ne_nil (c : Char) : lowerChar c ≠ [] := by
  rw [lowerChar]
  split
  · exact List.cons_ne_nil _ _
  · split
    · exact List.cons_ne_nil _ _
    · split <;> exact List.cons_ne_nil _ _

/-- A character that the table does not hold is its own form. -/
theorem lowerChar_eq_self {c : Char} (hdotted : c.toNat ≠ 0x130)
    (htable : ∀ run ∈ lowerRuns, run.has c.toNat = false) : lowerChar c = [c] := by
  have hnone : lowerRuns.find? (·.has c.toNat) = none :=
    List.find?_eq_none.mpr fun run hrun => by simp [htable run hrun]
  rw [lowerChar]
  split
  case isTrue hascii =>
    -- below 0x80 the table is not asked, but it holds the capitals that `Char.toLower` knows
    have hsmall := (ascii_checked c.toNat hascii).1 (htable _ List.mem_cons_self)
    rw [Char.ofNat_toNat] at hsmall
    rw [hsmall]
  case isFalse => rw [hnone]

/-- In ASCII a small letter has no further form. -/
theorem lowerChar_toLower {c : Char} (h : c.toNat < 0x80) :
    lowerChar c.toLower = [c.toLower] := by
  simpa using (ascii_checked c.toNat h).2

/-- A character of a form is its own form. -/
theorem lowerChar_of_mem {c d : Char} (h : d ∈ lowerChar c) : lowerChar d = [d] := by
  rw [lowerChar] at h
  split at h
  case isTrue hascii =>
    rw [List.mem_singleton.mp h]
    exact lowerChar_toLower hascii
  case isFalse hascii =>
    split at h
    case isTrue hdotted =>
      -- the dotted capital: a small letter and a mark, neither in the table
      obtain rfl | rfl : d = 'i' ∨ d = Char.ofNat 0x307 := by simpa using h
      · exact otherForms_checked.1.1
      · exact otherForms_checked.1.2
    case isFalse hdotted =>
      split at h
      case h_1 run hrun =>
        -- a form of the table, so the table does not hold it
        have hhas := List.find?_some hrun
        obtain ⟨hvalid, hne, hmiss⟩ := lowerRun_form (List.mem_of_find?_eq_some hrun) hhas
        have hform : d.toNat = run.form c.toNat := by
          rw [List.mem_singleton.mp h]
          exact toNat_ofNat hvalid
        rw [← hform] at hne hmiss
        exact lowerChar_eq_self hne hmiss
      case h_2 hnone =>
        rw [List.mem_singleton.mp h, lowerChar, if_neg hascii, if_neg hdotted, hnone]

/-! ### Texts -/

/-- A character of a text in lower case is its own form. -/
theorem lowerChar_of_mem_lowerAfter {afterCased : Bool} {cs : List Char} {d : Char}
    (h : d ∈ lowerAfter afterCased cs) : lowerChar d = [d] := by
  induction cs generalizing afterCased with
  | nil => simp at h
  | cons c cs ih =>
    rw [lowerAfter_cons] at h
    obtain hhead | htail := List.mem_append.mp h
    · split at hhead
      · -- both forms of the capital sigma are small letters
        rw [List.mem_singleton.mp hhead]
        split
        · exact otherForms_checked.2.1
        · exact otherForms_checked.2.2.1
      · exact lowerChar_of_mem hhead
    · exact ih htail

/-- Where every character is its own form, so is the text: the capital sigma, the one character
whose form hangs on its neighbours, is not among them. -/
theorem lowerAfter_eq_self {cs : List Char} (h : ∀ c ∈ cs, lowerChar c = [c])
    (afterCased : Bool) : lowerAfter afterCased cs = cs := by
  induction cs generalizing afterCased with
  | nil => rfl
  | cons c cs ih =>
    have hc : lowerChar c = [c] := h c List.mem_cons_self
    have hsigma : c ≠ 'Σ' := by
      -- the table has a form for the sigma too, the one without regard to neighbours
      rintro rfl
      exact otherForms_checked.2.2.2 hc
    rw [lowerAfter_cons, if_neg hsigma, hc, ih fun d hd => h d (List.mem_cons_of_mem c hd)]
    rfl

/-- A text none of whose characters changes is in lower case. -/
theorem lower_eq_self {s : String} (h : ∀ c ∈ s.toList, lowerChar c = [c]) : lower s = s := by
  rw [lower, lowerAfter_eq_self h, String.ofList_toList]

/-- Lower case is final. -/
@[simp]
theorem lower_lower (s : String) : lower (lower s) = lower s := by
  refine lower_eq_self fun c hc => ?_
  rw [lower, String.toList_ofList] at hc
  exact lowerChar_of_mem_lowerAfter hc

/-- The shortcut of `fold` changes nothing. -/
@[simp]
theorem fold_eq_lower (s : String) : fold s = lower s := by
  rw [fold]
  split
  case isTrue => rfl
  case isFalse h =>
    refine (lower_eq_self fun c hc => ?_).symm
    -- a character that changes would have made the test succeed
    by_cases hself : lowerChar c = [c]
    · exact hself
    · exact absurd (List.any_eq_true.mpr ⟨c, hc, by simpa using hself⟩) h

/-- Only the empty text has the empty lower-case form. -/
theorem lower_eq_empty_iff {s : String} : lower s = "" ↔ s = "" := by
  constructor
  · intro h
    rw [lower, String.ofList_eq_empty_iff] at h
    cases hs : s.toList with
    | nil => simpa using hs
    | cons c cs =>
      rw [hs, lowerAfter_cons] at h
      have hform := (List.append_eq_nil_iff.mp h).1
      split at hform
      · exact absurd hform (List.cons_ne_nil _ _)
      · exact absurd hform (lowerChar_ne_nil c)
  · rintro rfl
    rfl

end LedgerSearch.Text
