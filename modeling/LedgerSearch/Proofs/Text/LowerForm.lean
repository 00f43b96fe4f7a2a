import LedgerSearch.Proofs.Text.LetterCase

/-!
# `LedgerSearch.Proofs.Text.LowerForm`: what lower-casing cannot bring about

A query is taken apart at its blanks, quotes and parentheses, and at words that spell an operator.
Whoever puts a text into lower case after that relies on it that none of these comes up anew. That
is a question to the table: `K`, the sign for kelvin, has the letter `k` for its form, so a letter
of ASCII can come from outside of ASCII, and one that does might complete an operator.

None of the characters in question has another origin than itself and, if it is a letter, its
capital in ASCII (`lowerChar_eq_of_mem`). So a form that is made of such characters comes from a
text that differs from it in the case of ASCII letters only (`lowerAfter_eq_map_toLower`).
-/

set_option autoImplicit false

namespace LedgerSearch.Text

/-- The characters that the grammar of queries knows: blanks, quotes, parentheses, and the letters
of `AND`, `OR` and `NOT` in both cases. -/
def grammarRanges : CodeRanges :=
  blankRanges ++ [(0x22, 0x22), (0x28, 0x29),
    (0x41, 0x41), (0x44, 0x44), (0x4e, 0x4f), (0x52, 0x52), (0x54, 0x54),
    (0x61, 0x61), (0x64, 0x64), (0x6e, 0x6f), (0x72, 0x72), (0x74, 0x74)]

/-- No capital beyond ASCII has a form that the grammar knows, and neither have U+0130 and the
sigma. -/
theorem grammarRanges_checked :
    (lowerRuns.all fun run => Nat.blt run.last 0x80
        || grammarRanges.all fun range => run.misses ⟨range.1, range.2, 1, 0⟩) = true ∧
      (grammarRanges.has 'i' = false ∧ grammarRanges.has (Char.ofNat 0x307) = false) ∧
      grammarRanges.has 'ς' = false ∧ grammarRanges.has 'σ' = false := by
  decide

variable {c d : Char} {cs : List Char} {afterCased : Bool}

/-! ### Characters -/

theorem toLower_of_not_ascii (h : ¬ c.toNat < 0x80) : c.toLower = c := by
  obtain hself | ⟨n, hn, hcapital, -⟩ := toLower_cases c
  · exact hself
  · rw [hcapital, toNat_ofNat (.inl (by omega))] at h
    omega

/-- The three kinds of forms: that of a letter of ASCII or of a character without another form, that
of U+0130, and those of the table. -/
theorem lowerChar_cases (c : Char) :
    lowerChar c = [c.toLower] ∨ lowerChar c = ['i', Char.ofNat 0x307] ∨
      ∃ run ∈ lowerRuns, run.has c.toNat = true ∧ 0x80 ≤ c.toNat ∧
        lowerChar c = [Char.ofNat (run.form c.toNat)] := by
  rw [lowerChar]
  split
  case isTrue => exact .inl rfl
  case isFalse hascii =>
    split
    case isTrue => exact .inr (.inl rfl)
    case isFalse =>
      split
      case h_1 run hrun =>
        have hhas : run.has c.toNat = true := by simpa using List.find?_some hrun
        exact .inr (.inr ⟨run, List.mem_of_find?_eq_some hrun, hhas, Nat.le_of_not_lt hascii, rfl⟩)
      case h_2 => exact .inl (by rw [toLower_of_not_ascii hascii])

/-- The grammar knows no form of a capital beyond ASCII. -/
theorem grammarRanges_has_form {run : LowerRun} (hrun : run ∈ lowerRuns) {n : Nat}
    (hn : run.has n = true) (hascii : 0x80 ≤ n) :
    grammarRanges.has (Char.ofNat (run.form n)) = false := by
  have hrow := List.all_eq_true.mp grammarRanges_checked.1 run hrun
  have hlast := (LowerRun.has_iff.mp hn).1.2
  rw [Bool.or_eq_true, Nat.blt_eq, List.all_eq_true] at hrow
  -- a run with a member beyond ASCII does not end within it
  have hmiss := hrow.resolve_left (by omega)
  obtain ⟨hvalid, -⟩ := lowerRun_form hrun hn
  have hsound : run.isSound = true := by
    have hchecked := List.all_eq_true.mp lowerRuns_checked run hrun
    simp only [Bool.and_eq_true] at hchecked
    exact hchecked.1.1
  rw [← Bool.not_eq_true, CodeRanges.has_iff, toNat_ofNat hvalid]
  rintro ⟨range, hrange, hfirst, hlast⟩
  -- a range is a run of all its code points
  have hout := LowerRun.has_form_of_misses hsound (hmiss range hrange) hn
  simp [LowerRun.has, hfirst, hlast, Nat.mod_one] at hout

/-- A character that the grammar knows is a form only of itself and, in ASCII, of its capital. -/
theorem lowerChar_eq_of_mem (h : d ∈ lowerChar c) (hd : grammarRanges.has d = true) :
    lowerChar c = [c.toLower] := by
  obtain ⟨-, ⟨hi, hdot⟩, -⟩ := grammarRanges_checked
  obtain hself | hdotted | ⟨run, hrun, hhas, hascii, hform⟩ := lowerChar_cases c
  · exact hself
  · obtain rfl | rfl : d = 'i' ∨ d = Char.ofNat 0x307 := by simpa [hdotted] using h
    · rw [hi] at hd
      cases hd
    · rw [hdot] at hd
      cases hd
  · rw [hform, List.mem_singleton] at h
    rw [h, grammarRanges_has_form hrun hhas hascii] at hd
    cases hd

/-! ### Texts -/

/-- The forms of the sigma make no difference, as the grammar knows none of them. -/
theorem form_eq_of_mem {final : Bool}
    (h : d ∈ if c = 'Σ' then [if final then 'ς' else 'σ'] else lowerChar c)
    (hd : grammarRanges.has d = true) :
    (if c = 'Σ' then [if final then 'ς' else 'σ'] else lowerChar c) = [c.toLower] := by
  obtain ⟨-, -, hfinal, hsigma⟩ := grammarRanges_checked
  split at h
  case isTrue =>
    rw [List.mem_singleton] at h
    rw [h] at hd
    cases final
    · exact absurd hd (by simp [hsigma])
    · exact absurd hd (by simp [hfinal])
  case isFalse hne => rw [if_neg hne, lowerChar_eq_of_mem h hd]

/-- What the grammar knows in the lower-case form of a text stands in the text already, but for the
case of letters. -/
theorem exists_of_mem_lowerAfter (h : d ∈ lowerAfter afterCased cs)
    (hd : grammarRanges.has d = true) : ∃ c ∈ cs, d = c.toLower := by
  induction cs generalizing afterCased with
  | nil => exact absurd h List.not_mem_nil
  | cons c cs ih =>
      rw [lowerAfter_cons, List.mem_append] at h
      rcases h with hform | hrest
      · rw [form_eq_of_mem hform hd, List.mem_singleton] at hform
        exact ⟨c, List.mem_cons_self, hform⟩
      · obtain ⟨c', hc', heq⟩ := ih hrest
        exact ⟨c', List.mem_cons_of_mem c hc', heq⟩

/-- A form that is all made of characters that the grammar knows is the text in small letters. -/
theorem lowerAfter_eq_map_toLower
    (h : ∀ d ∈ lowerAfter afterCased cs, grammarRanges.has d = true) :
    lowerAfter afterCased cs = cs.map Char.toLower := by
  induction cs generalizing afterCased with
  | nil => rfl
  | cons c cs ih =>
      rw [lowerAfter_cons, List.forall_mem_append] at h
      obtain ⟨hform, hrest⟩ := h
      rw [lowerAfter_cons, ih hrest]
      -- every character has a form, and one character of it tells which
      obtain ⟨d, hd⟩ : ∃ d, d ∈ if c = 'Σ' then [if afterCased && !casedNext cs then 'ς' else 'σ']
          else lowerChar c := by
        refine List.exists_mem_of_ne_nil _ ?_
        split
        · exact List.cons_ne_nil _ _
        · exact lowerChar_ne_nil c
      rw [form_eq_of_mem hd (hform d hd)]
      rfl

end LedgerSearch.Text
