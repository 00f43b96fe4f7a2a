import LedgerSearch.Text.Escape
import LedgerSearch.Text.Hex
import Mathlib.Data.List.TakeWhile
import Mathlib.Data.Nat.Digits.Defs

/-!
# `LedgerSearch.Proofs.Text.Escape`: a quoted text can be told from every other

`Text.quoted` puts a text between quotes so that it can be inspected. Two things make it fit for
that. Everything that is written can be shown (`isShown_of_mem_quoted`), whatever the text holds, so
a quoted text never leaves its line. And no two texts are quoted alike (`quoted_inj`), so nothing is
lost on the way.

For the second one, `unescape?` reads the first character back from the way it is written, in front
of any rest (`unescape?_escapeChar`). An escape thus says where it ends, and this is what keeps the
escapes in a text apart. The one whose length varies is the hexadecimal one, and it is read with
`hexNumber?`, the reader of the file formats.
-/

set_option autoImplicit false

namespace LedgerSearch.Text

/-! ### Hexadecimal digits -/

theorem hexNumber?_append (acc : Nat) (cs ds : List Char) :
    hexNumber? acc (cs ++ ds) = (hexNumber? acc cs).bind fun n => hexNumber? n ds := by
  induction cs generalizing acc with
  | nil => rfl
  | cons c cs ih =>
      rw [List.cons_append, hexNumber?, hexNumber?, Option.bind_assoc]
      exact congrArg _ (funext fun d => ih (acc * 16 + d))

theorem hexValue?_digitChar : ∀ d < 16, hexValue? (Nat.digitChar d) = some d := by
  decide

/-- A number is read back from its digits. -/
theorem hexNumber?_toDigits (n : Nat) : hexNumber? 0 (Nat.toDigits 16 n) = some n := by
  induction n using Nat.strong_induction_on with
  | _ n ih =>
      rw [Nat.toDigits_eq_if (by decide)]
      split_ifs with hn
      · simp [hexNumber?, hexValue?_digitChar n hn]
      · have hlast : hexValue? (Nat.digitChar (n % 16)) = some (n % 16) :=
          hexValue?_digitChar _ (Nat.mod_lt n (by decide))
        rw [hexNumber?_append, ih (n / 16) (by omega), Option.bind_some, hexNumber?, hlast,
          Option.bind_some, hexNumber?, Nat.div_add_mod' n 16]

theorem exists_digitChar_of_mem_toDigits {n : Nat} {c : Char} (hc : c ∈ Nat.toDigits 16 n) :
    ∃ d < 16, c = Nat.digitChar d := by
  induction n using Nat.strong_induction_on with
  | _ n ih =>
      rw [Nat.toDigits_eq_if (by decide)] at hc
      split_ifs at hc with hn
      · exact ⟨n, hn, List.mem_singleton.mp hc⟩
      · rcases List.mem_append.mp hc with hc | hc
        · exact ih (n / 16) (by omega) hc
        · exact ⟨n % 16, Nat.mod_lt n (by decide), List.mem_singleton.mp hc⟩

/-! ### What is written can be shown -/

theorem isShown_digitChar : ∀ d < 16, isShown (Nat.digitChar d) = true := by
  decide

theorem isShown_of_mem_codePointEscape {c d : Char} (hd : d ∈ codePointEscape c) :
    isShown d = true := by
  simp only [codePointEscape, List.mem_cons, List.mem_append, List.not_mem_nil, or_false] at hd
  rcases hd with rfl | rfl | rfl | hdigit | rfl
  · decide
  · decide
  · decide
  · obtain ⟨n, hn, rfl⟩ := exists_digitChar_of_mem_toDigits hdigit
    exact isShown_digitChar n hn
  · decide

/-- A character is shown as it is, or what stands for it can be shown. -/
theorem isShown_of_mem_escapeChar {c d : Char} (hd : d ∈ escapeChar c) : isShown d = true := by
  unfold escapeChar at hd
  split at hd
  case h_7 =>
    split_ifs at hd with hc
    · rwa [List.mem_singleton.mp hd]
    · exact isShown_of_mem_codePointEscape hd
  all_goals
    -- an escape of two characters
    simp only [List.mem_cons, List.not_mem_nil, or_false] at hd
    rcases hd with rfl | rfl <;> decide

/-- Nothing that stands in a quoted text needs an escape of its own. -/
theorem isShown_of_mem_quoted {s : String} {c : Char} (hc : c ∈ (quoted s).toList) :
    isShown c = true := by
  rw [quoted, String.toList_ofList, List.mem_cons, List.mem_append, List.mem_flatMap,
    List.mem_singleton] at hc
  rcases hc with rfl | ⟨d, -, hc⟩ | rfl
  · decide
  · exact isShown_of_mem_escapeChar hc
  · decide

/-! ### What is written can be read back -/

/-- The character that a letter behind a backslash stands for. -/
def escapedBy? (c : Char) : Option Char :=
  match c with
  | '0' => some '\x00'
  | 't' => some '\t'
  | 'n' => some '\n'
  | 'r' => some '\r'
  | '"' => some '"'
  | '\\' => some '\\'
  | _ => none

/-- The character that the front of an escaped text stands for, and what follows it. -/
def unescape? (cs : List Char) : Option (Char × List Char) :=
  match cs with
  | [] => none
  | '\\' :: 'u' :: '\x7b' :: cs =>
    (hexNumber? 0 (cs.takeWhile (· ≠ '\x7d'))).map fun n =>
      (Char.ofNat n, (cs.dropWhile (· ≠ '\x7d')).tail)
  | '\\' :: c :: cs => (escapedBy? c).map fun d => (d, cs)
  | c :: cs => some (c, cs)

theorem unescape?_of_ne {c : Char} (hc : c ≠ '\\') (cs : List Char) :
    unescape? (c :: cs) = some (c, cs) := by
  unfold unescape?
  split <;> simp_all

theorem unescape?_codePointEscape (c : Char) (cs : List Char) :
    unescape? (codePointEscape c ++ cs) = some (c, cs) := by
  have hdigits : ∀ d ∈ Nat.toDigits 16 c.toNat, decide (d ≠ '\x7d') = true := by
    intro d hd
    obtain ⟨n, -, rfl⟩ := exists_digitChar_of_mem_toDigits hd
    exact decide_eq_true (Nat.digitChar_ne '\x7d' rfl)
  show unescape? ('\\' :: 'u' :: '\x7b' :: (Nat.toDigits 16 c.toNat ++ ['\x7d'] ++ cs)) = _
  rw [unescape?, List.append_assoc, List.takeWhile_append_of_pos hdigits,
    List.dropWhile_append_of_pos hdigits]
  simp [hexNumber?_toDigits]

/-- Every character is read back from the way it is written. -/
theorem unescape?_escapeChar (c : Char) (cs : List Char) :
    unescape? (escapeChar c ++ cs) = some (c, cs) := by
  unfold escapeChar
  split
  -- six characters have an escape of two characters, which is read by computing
  case h_7 hslash =>
    split_ifs with hc
    · exact unescape?_of_ne hslash cs
    · exact unescape?_codePointEscape c cs
  all_goals rfl

theorem escapeChar_ne_nil (c : Char) : escapeChar c ≠ [] := by
  intro hnil
  have h := unescape?_escapeChar c []
  rw [hnil] at h
  cases h

theorem flatMap_escapeChar_inj {cs ds : List Char}
    (h : cs.flatMap escapeChar = ds.flatMap escapeChar) : cs = ds := by
  induction cs generalizing ds with
  | nil =>
      cases ds with
      | nil => rfl
      | cons d ds => simp [List.flatMap_cons, escapeChar_ne_nil] at h
  | cons c cs ih =>
      cases ds with
      | nil => simp [List.flatMap_cons, escapeChar_ne_nil] at h
      | cons d ds =>
          rw [List.flatMap_cons, List.flatMap_cons] at h
          have hfront := congrArg unescape? h
          rw [unescape?_escapeChar, unescape?_escapeChar, Option.some.injEq, Prod.mk.injEq] at hfront
          obtain ⟨rfl, hrest⟩ := hfront
          rw [ih hrest]

/-- **No two texts are quoted alike.** -/
theorem quoted_inj {s t : String} : quoted s = quoted t ↔ s = t := by
  refine ⟨fun h => ?_, congrArg quoted⟩
  have hchars := congrArg String.toList h
  simp only [quoted, String.toList_ofList, List.cons.injEq, true_and, List.append_cancel_right_eq]
    at hchars
  exact String.toList_inj.mp (flatMap_escapeChar_inj hchars)

end LedgerSearch.Text
