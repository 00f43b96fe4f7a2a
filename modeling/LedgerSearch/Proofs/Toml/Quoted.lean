import LedgerSearch.Toml.Printer
import LedgerSearch.Toml.Text
import Mathlib

/-!
# `LedgerSearch.Proofs.Toml.Quoted`: every text survives its string

A text may be written in any of the four forms of a string, and which form it is depends on the
whole of it. `readQuoted_quoted` states that the form does not matter: whatever the text holds, be
it marks, backslashes, line breaks or control characters, the string is read back as that text.

There are two ways to write a character. In the basic forms every character comes back from its
escape or from itself (`readBasic_escapeChar`). In the literal forms there are no escapes, and the
form is only chosen where none is needed.

The tripled forms are the ones with a catch. Single marks stand for themselves in them, the closing
marks are three of the same, and three in a row always close, with up to two more behind them taken
as text. So at every mark the reader looks at the two characters behind it. It never sees three
marks within the text because the writer counts them: a basic string escapes the third one
(`escapeBasic`), and a literal string is not chosen (`longestRun`). At the end of the text it sees
as many as five, of which the last three close (`trailingMarks_append`).
-/

set_option autoImplicit false

namespace LedgerSearch.Toml

variable {multiline : Bool} {cs rest : List Char}

/-! ### Characters of a basic string -/

theorem isControl_of_not_isTextChar {c : Char} (h : isTextChar c = false) (hbreak : c ≠ '\n') :
    isControl c = true := by
  simp only [isTextChar, isControl] at h ⊢
  grind

theorem isTextChar_of_not_isControl {c : Char} (h : isControl c = false) (hbreak : c ≠ '\n') :
    isTextChar c = true := by
  by_contra hc
  simp [isControl_of_not_isTextChar (Bool.eq_false_iff.mpr hc) hbreak] at h

/-- A line break stands for itself where the string may have lines. -/
theorem readBasic_lineBreak (cs : List Char) :
    readBasic true .nothing ('\n' :: cs) = keep '\n' (readBasic true .nothing cs) := by
  rw [readBasic.eq_def]
  simp

/-- An escape with one letter. -/
theorem readBasic_escaped {e c : Char} (he : e ≠ 'x' ∧ e ≠ 'u' ∧ e ≠ 'U')
    (hc : escaped? e = some c) (cs : List Char) :
    readBasic multiline .nothing ('\\' :: e :: cs) = keep c (readBasic multiline .nothing cs) := by
  have hblank : startsBlank (e :: cs) = false := by
    rw [Bool.eq_false_iff]
    intro h
    simp only [startsBlank, Bool.or_eq_true, decide_eq_true_eq] at h
    rcases h with ((rfl | rfl) | rfl) | rfl <;> simp [escaped?] at hc
  rw [readBasic.eq_def]
  simp [hblank, he, hc]

/-- An escape with four hexadecimal digits. -/
theorem readBasic_hex {d₁ d₂ d₃ d₄ c : Char} (h : codePoint? [d₁, d₂, d₃, d₄] = some c)
    (cs : List Char) :
    readBasic multiline .nothing ('\\' :: 'u' :: d₁ :: d₂ :: d₃ :: d₄ :: cs)
      = keep c (readBasic multiline .nothing cs) := by
  rw [readBasic.eq_def]
  simp [startsBlank, h]

/-- A control character can be read off its hexadecimal escape. -/
theorem codePoint?_fourHexDigits {c : Char} (h : isControl c = true) :
    codePoint? (fourHexDigits c.toNat) = some c := by
  have hall : ∀ n < 128, codePoint? (fourHexDigits n) = some (Char.ofNat n) := by decide
  have hsmall : c.toNat < 128 := by
    simp only [isControl, Bool.and_eq_true, Bool.or_eq_true, decide_eq_true_eq] at h
    omega
  rw [hall c.toNat hsmall, Char.ofNat_toNat]

/-- Every character but the quote is read back from the way it is written. -/
theorem readBasic_escapeChar {c : Char} (hquote : c ≠ '"') (cs : List Char) :
    readBasic multiline .nothing (escapeChar c ++ cs)
      = keep c (readBasic multiline .nothing cs) := by
  unfold escapeChar
  split
  case h_7 hb ht hn hf hr hslash =>
    split_ifs with hcontrol
    · exact readBasic_hex (codePoint?_fourHexDigits hcontrol) cs
    · have htext := isTextChar_of_not_isControl (Bool.eq_false_iff.mpr hcontrol) hn
      exact readBasic_plain htext hquote hslash cs
  all_goals exact readBasic_escaped (by decide) rfl cs

/-! ### Strings on one line -/

theorem readBasic_escapeBasic_line (cs rest : List Char) :
    readBasic false .nothing (escapeBasic 0 0 cs ++ '"' :: rest) = some (cs, rest) := by
  induction cs with
  | nil =>
      show readBasic false .nothing ('"' :: rest) = _
      rw [readBasic.eq_def]
      simp
  | cons c cs ih =>
      by_cases hquote : c = '"'
      · subst hquote
        rw [escapeBasic_cons, if_pos rfl, if_neg (by decide), List.cons_append, List.cons_append,
          readBasic_escaped (by decide) rfl, ih]
        rfl
      · rw [escapeBasic_cons, if_neg hquote, if_neg (by simp), List.append_assoc,
          readBasic_escapeChar hquote, ih]
        rfl

theorem readLiteral_append (htext : ∀ c ∈ cs, isTextChar c = true) (hmark : '\'' ∉ cs)
    (rest : List Char) : readLiteral (cs ++ '\'' :: rest) = some (cs, rest) := by
  induction cs with
  | nil => rw [List.nil_append, readLiteral, if_pos rfl]
  | cons c cs ih =>
      have hc : c ≠ '\'' := fun h => hmark (h ▸ List.mem_cons_self)
      have ih := ih (fun d hd => htext d (List.mem_cons_of_mem c hd))
        (fun h => hmark (List.mem_cons_of_mem c h))
      rw [List.cons_append, readLiteral, if_neg hc, if_pos (htext c List.mem_cons_self), ih]
      rfl

/-! ### Tripled marks -/

/-- Of up to five marks in a row the last three close. -/
theorem trailingMarks_append {mark : Char} {k : Nat} (hk : k ≤ 2)
    (hrest : rest.head? ≠ some mark) :
    trailingMarks mark (List.replicate k mark ++ rest) = (List.replicate k mark, rest) := by
  obtain rfl | rfl | rfl : k = 0 ∨ k = 1 ∨ k = 2 := by omega
  · cases rest with
    | nil => rfl
    | cons c cs =>
        have hc : c ≠ mark := by simpa using hrest
        cases cs <;> simp [trailingMarks, hc]
  · cases rest with
    | nil => simp [trailingMarks]
    | cons c cs =>
        have hc : c ≠ mark := by simpa using hrest
        simp [trailingMarks, hc]
  · simp [trailingMarks, List.replicate]

/-- The text ends with the marks in front of the last three. -/
theorem replicate_append_three (mark : Char) (k : Nat) (rest : List Char) :
    List.replicate k mark ++ mark :: mark :: mark :: rest
      = mark :: mark :: mark :: (List.replicate k mark ++ rest) := by
  have hmarks : mark :: mark :: mark :: rest = List.replicate 3 mark ++ rest := rfl
  rw [hmarks, ← List.append_assoc, List.replicate_append_replicate, Nat.add_comm,
    ← List.replicate_append_replicate, List.append_assoc]
  rfl

/-! ### Basic strings with lines -/

theorem readBasic_closing {k : Nat} (hk : k ≤ 2) (hrest : rest.head? ≠ some '"') :
    readBasic true .nothing (List.replicate k '"' ++ '"' :: '"' :: '"' :: rest)
      = some (List.replicate k '"', rest) := by
  rw [replicate_append_three, readBasic.eq_def]
  simp [trailingMarks_append hk hrest]

/-- A mark that two others do not follow stands for itself. -/
theorem readBasic_quote (h : ∀ ds, cs ≠ '"' :: '"' :: ds) :
    readBasic true .nothing ('"' :: cs) = keep '"' (readBasic true .nothing cs) := by
  rw [readBasic.eq_def]
  simp only [ne_eq, not_true_eq_false, false_and, if_false, reduceCtorEq, if_true]

/-- What a character is written as begins with no quote and with no part of a line break. -/
theorem escapeChar_front {c : Char} (h : c ≠ '"') :
    ∃ d ds, escapeChar c = d :: ds ∧ d ≠ '"' ∧ d ≠ '\n' ∧ d ≠ '\r' := by
  unfold escapeChar
  split
  case h_7 hn _ hr _ =>
    split_ifs
    · exact ⟨'\\', _, rfl, by decide⟩
    · exact ⟨c, [], rfl, h, hn, hr⟩
  all_goals exact ⟨'\\', _, rfl, by decide⟩

/-- A basic string with lines begins with two marks at the most, less those written before it.
Either it is at its end then, or another character follows. -/
theorem escapeBasic_front {quotes : Nat} (hquotes : quotes ≤ 2) (cs : List Char) :
    (∃ k, k + quotes ≤ 2 ∧ cs = List.replicate k '"' ∧
        escapeBasic 2 quotes cs = List.replicate k '"') ∨
      ∃ k c ds, k + quotes ≤ 2 ∧ c ≠ '"' ∧
        escapeBasic 2 quotes cs = List.replicate k '"' ++ c :: ds := by
  induction cs generalizing quotes with
  | nil => exact .inl ⟨0, by omega, rfl, rfl⟩
  | cons c cs ih =>
      by_cases hquote : c = '"'
      · subst hquote
        by_cases hlimit : quotes < 2
        · rw [escapeBasic_cons, if_pos rfl, if_pos hlimit]
          have hnext : quotes + 1 ≤ 2 := hlimit
          rcases ih hnext with
            ⟨k, hk, rfl, hw⟩ | ⟨k, d, ds, hk, hd, hw⟩
          · exact .inl ⟨k + 1, by omega, rfl, by rw [hw, List.replicate_succ]⟩
          · exact .inr ⟨k + 1, d, ds, by omega, hd,
              by rw [hw, List.replicate_succ, List.cons_append]⟩
        · rw [escapeBasic_cons, if_pos rfl, if_neg hlimit]
          exact .inr ⟨0, '\\', _, by omega, by decide, rfl⟩
      · rw [escapeBasic_cons, if_neg hquote]
        split_ifs
        · exact .inr ⟨0, '\n', _, by omega, by decide, rfl⟩
        · obtain ⟨d, ds, hescape, hd, -⟩ := escapeChar_front hquote
          exact .inr ⟨0, d, _, by omega, hd, by rw [hescape]; rfl⟩

theorem readBasic_escapeBasic_lines {quotes : Nat} (hquotes : quotes ≤ 2) (cs : List Char)
    (hrest : rest.head? ≠ some '"') :
    readBasic true .nothing (escapeBasic 2 quotes cs ++ '"' :: '"' :: '"' :: rest)
      = some (cs, rest) := by
  induction cs generalizing quotes with
  | nil => exact readBasic_closing (k := 0) (by omega) hrest
  | cons c cs ih =>
      by_cases hquote : c = '"'
      · subst hquote
        by_cases hlimit : quotes < 2
        · have hnext : quotes + 1 ≤ 2 := hlimit
          have ih := ih hnext
          rw [escapeBasic_cons, if_pos rfl, if_pos hlimit]
          rcases escapeBasic_front hnext cs with
            ⟨k, hk, rfl, hw⟩ | ⟨k, d, ds, hk, hd, hw⟩
          · -- the text ends here, so its marks run into the closing ones
            rw [hw, ← List.replicate_succ, readBasic_closing (by omega) hrest]
          · have hnot : ∀ es, escapeBasic 2 (quotes + 1) cs ++ '"' :: '"' :: '"' :: rest
                ≠ '"' :: '"' :: es := by
              intro es
              obtain rfl | rfl : k = 0 ∨ k = 1 := by omega
              · simp [hw, hd]
              · simp [hw, hd]
            rw [List.cons_append, readBasic_quote hnot, ih]
            rfl
        · rw [escapeBasic_cons, if_pos rfl, if_neg hlimit, List.cons_append, List.cons_append,
            readBasic_escaped (by decide) rfl, ih (by omega)]
          rfl
      · by_cases hbreak : c = '\n'
        · subst hbreak
          rw [escapeBasic_cons, if_neg hquote, if_pos (by simp), List.cons_append,
            readBasic_lineBreak, ih (by omega)]
          rfl
        · rw [escapeBasic_cons, if_neg hquote, if_neg (by simp [hbreak]), List.append_assoc,
            readBasic_escapeChar hquote, ih (by omega)]
          rfl

/-! ### Literal strings with lines -/

theorem readMultiLiteral_closing {k : Nat} (hk : k ≤ 2) (hrest : rest.head? ≠ some '\'') :
    readMultiLiteral (List.replicate k '\'' ++ '\'' :: '\'' :: '\'' :: rest)
      = some (List.replicate k '\'', rest) := by
  rw [replicate_append_three, readMultiLiteral, trailingMarks_append hk hrest]

/-- A mark that two others do not follow stands for itself. -/
theorem readMultiLiteral_mark (h : ∀ ds, cs ≠ '\'' :: '\'' :: ds) :
    readMultiLiteral ('\'' :: cs) = keep '\'' (readMultiLiteral cs) := by
  rw [readMultiLiteral.eq_def]
  split
  case h_1 heq => cases heq
  case h_2 ds heq => exact absurd (List.cons.inj heq).2 (h ds)
  case h_3 ds heq => cases heq
  case h_4 c ds _ _ heq =>
    obtain ⟨rfl, rfl⟩ := List.cons.inj heq
    rw [if_pos (by decide)]

theorem readMultiLiteral_plain {c : Char} (hc : isControl c = false) (hmark : c ≠ '\'')
    (cs : List Char) : readMultiLiteral (c :: cs) = keep c (readMultiLiteral cs) := by
  have htext : c = '\n' ∨ isTextChar c = true := by
    by_cases hbreak : c = '\n'
    · exact .inl hbreak
    · exact .inr (isTextChar_of_not_isControl hc hbreak)
  have hreturn : c ≠ '\r' := fun h => by simp [h, isControl] at hc
  rw [readMultiLiteral.eq_def]
  simp [hmark, hreturn, htext]

theorem le_longestRun (mark : Char) (run longest : Nat) (cs : List Char) :
    max run longest ≤ longestRun mark run longest cs := by
  induction cs generalizing run longest with
  | nil => exact Nat.le_refl _
  | cons c cs ih =>
      rw [longestRun]
      split_ifs
      · exact Nat.le_trans (by omega) (ih (run + 1) longest)
      · exact Nat.le_trans (by omega) (ih 0 (max run longest))

/-- A text without long runs begins with few marks, less those in front of it. Either it is at its
end then, or another character follows. -/
theorem front_of_longestRun {mark : Char} {run longest : Nat}
    (h : longestRun mark run longest cs ≤ 2) :
    ∃ k, k + run ≤ 2 ∧ (cs = List.replicate k mark ∨
      ∃ c ds, c ≠ mark ∧ cs = List.replicate k mark ++ c :: ds) := by
  induction cs generalizing run with
  | nil =>
      have := le_longestRun mark run longest []
      exact ⟨0, by omega, .inl rfl⟩
  | cons c cs ih =>
      by_cases hc : c = mark
      · subst hc
        rw [longestRun, if_pos rfl] at h
        obtain ⟨k, hk, rfl | ⟨d, ds, hd, rfl⟩⟩ := ih h
        · exact ⟨k + 1, by omega, .inl (List.replicate_succ ..).symm⟩
        · exact ⟨k + 1, by omega, .inr ⟨d, ds, hd, by rw [List.replicate_succ, List.cons_append]⟩⟩
      · have := le_longestRun mark run longest (c :: cs)
        exact ⟨0, by omega, .inr ⟨c, cs, hc, rfl⟩⟩

theorem readMultiLiteral_append {run longest : Nat} (hcontrol : ∀ c ∈ cs, isControl c = false)
    (hrun : longestRun '\'' run longest cs ≤ 2) (hrest : rest.head? ≠ some '\'') :
    readMultiLiteral (cs ++ '\'' :: '\'' :: '\'' :: rest) = some (cs, rest) := by
  induction cs generalizing run longest with
  | nil => exact readMultiLiteral_closing (k := 0) (by omega) hrest
  | cons c cs ih =>
      have hlater : ∀ d ∈ cs, isControl d = false := fun d hd =>
        hcontrol d (List.mem_cons_of_mem c hd)
      by_cases hmark : c = '\''
      · subst hmark
        rw [longestRun, if_pos rfl] at hrun
        have ih := ih hlater hrun
        obtain ⟨k, hk, rfl | ⟨d, ds, hd, rfl⟩⟩ := front_of_longestRun hrun
        · -- the text ends here, so its marks run into the closing ones
          rw [← List.replicate_succ, readMultiLiteral_closing (by omega) hrest]
        · have hnot : ∀ es, List.replicate k '\'' ++ d :: ds ++ '\'' :: '\'' :: '\'' :: rest
              ≠ '\'' :: '\'' :: es := by
            intro es
            obtain rfl | rfl : k = 0 ∨ k = 1 := by omega
            · simp [hd]
            · simp [hd]
          rw [List.cons_append, readMultiLiteral_mark hnot, ih]
          rfl
      · rw [longestRun, if_neg hmark] at hrun
        rw [List.cons_append, readMultiLiteral_plain (hcontrol c List.mem_cons_self) hmark,
          ih hlater hrun]
        rfl

/-! ### Strings of any form -/

/-- A quote that two others do not follow opens a string on one line. -/
theorem readQuoted_quote (h : ∀ ds, cs ≠ '"' :: '"' :: ds) :
    readQuoted ('"' :: cs)
      = (readBasic false .nothing cs).map fun r => (⟨String.ofList r.1, false⟩, r.2) := by
  rw [readQuoted.eq_def]
  split
  case h_1 ds heq => exact absurd (List.cons.inj heq).2 (h ds)
  case h_2 ds _ heq => rw [(List.cons.inj heq).2]
  case h_3 heq => cases heq
  case h_4 heq => cases heq
  case h_5 hquote _ _ => exact absurd rfl (hquote cs)

/-- An apostrophe that two others do not follow opens a literal string on one line. -/
theorem readQuoted_apostrophe (h : ∀ ds, cs ≠ '\'' :: '\'' :: ds) :
    readQuoted ('\'' :: cs)
      = (readLiteral cs).map fun r => (⟨String.ofList r.1, false⟩, r.2) := by
  rw [readQuoted.eq_def]
  split
  case h_1 heq => cases heq
  case h_2 heq => cases heq
  case h_3 ds heq => exact absurd (List.cons.inj heq).2 (h ds)
  case h_4 ds _ heq => rw [(List.cons.inj heq).2]
  case h_5 hapostrophe => exact absurd rfl (hapostrophe cs)

/-- Only a line break at the front is dropped. -/
theorem dropLineBreak_cons {c : Char} (h : c ≠ '\n' ∧ c ≠ '\r') (cs : List Char) :
    dropLineBreak (c :: cs) = c :: cs := by
  unfold dropLineBreak
  split
  case h_1 heq => exact absurd (List.cons.inj heq).1 h.1
  case h_2 heq => exact absurd (List.cons.inj heq).1 h.2
  case h_3 => rfl

/-- The line break that keeps a text with lines off the opening marks is dropped again, and nothing
else is. -/
theorem dropLineBreak_tripled {lines : Bool} {body : List Char}
    (h : lines = false → ∃ c ds, body = c :: ds ∧ c ≠ '\n' ∧ c ≠ '\r') :
    dropLineBreak ((if lines then ['\n'] else []) ++ body) = body := by
  cases lines with
  | true => rfl
  | false =>
      obtain ⟨c, ds, rfl, hc⟩ := h rfl
      exact dropLineBreak_cons hc ds

theorem readQuoted_basic (cs : List Char) (hrest : rest.head? ≠ some '"') :
    readQuoted (StringForm.basic.write cs ++ rest) = some (⟨String.ofList cs, false⟩, rest) := by
  have hnot : ∀ ds, escapeBasic 0 0 cs ++ '"' :: rest ≠ '"' :: '"' :: ds := by
    intro ds h
    cases cs with
    | nil =>
        obtain rfl : rest = '"' :: ds := (List.cons.inj h).2
        exact hrest rfl
    | cons c cs =>
        by_cases hquote : c = '"'
        · simp [escapeBasic_cons, hquote] at h
        · obtain ⟨d, es, hescape, hd, -⟩ := escapeChar_front hquote
          simp [escapeBasic_cons, hquote, hescape, hd] at h
  rw [StringForm.write, List.cons_append, List.append_assoc, List.singleton_append,
    readQuoted_quote hnot, readBasic_escapeBasic_line]
  rfl

theorem readQuoted_literal (htext : ∀ c ∈ cs, isTextChar c = true) (hmark : '\'' ∉ cs)
    (hrest : rest.head? ≠ some '\'') :
    readQuoted (StringForm.literal.write cs ++ rest) = some (⟨String.ofList cs, false⟩, rest) := by
  have hnot : ∀ ds, cs ++ '\'' :: rest ≠ '\'' :: '\'' :: ds := by
    intro ds h
    cases cs with
    | nil =>
        obtain rfl : rest = '\'' :: ds := by simpa using h
        exact hrest rfl
    | cons c cs =>
        obtain rfl : c = '\'' := (List.cons.inj h).1
        exact hmark List.mem_cons_self
  rw [StringForm.write, List.cons_append, List.append_assoc, List.singleton_append,
    readQuoted_apostrophe hnot, readLiteral_append htext hmark]
  rfl

theorem readQuoted_multilineBasic (cs : List Char) (hrest : rest.head? ≠ some '"') :
    readQuoted (StringForm.multilineBasic.write cs ++ rest)
      = some (⟨String.ofList cs, true⟩, rest) := by
  have hfront : cs.contains '\n' = false →
      ∃ c ds, escapeBasic 2 0 cs ++ '"' :: '"' :: '"' :: rest = c :: ds ∧ c ≠ '\n' ∧ c ≠ '\r' := by
    intro hlines
    cases cs with
    | nil => exact ⟨'"', _, rfl, by decide⟩
    | cons c cs =>
        by_cases hquote : c = '"'
        · rw [hquote, escapeBasic_cons, if_pos rfl, if_pos (by decide)]
          exact ⟨'"', _, rfl, by decide⟩
        · have hbreak : c ≠ '\n' := fun h => by simp [h] at hlines
          obtain ⟨d, es, hescape, -, hd⟩ := escapeChar_front hquote
          rw [escapeBasic_cons, if_neg hquote, if_neg (by simp [hbreak]), hescape]
          exact ⟨d, _, rfl, hd⟩
  have hread := readBasic_escapeBasic_lines (Nat.zero_le 2) cs hrest
  have hdrop := dropLineBreak_tripled hfront
  simp only [StringForm.write, tripled, List.append_assoc, List.cons_append, List.nil_append]
  show (readBasic true .nothing (dropLineBreak _)).map _ = _
  rw [hdrop, hread]
  rfl

theorem readQuoted_multilineLiteral (hcontrol : ∀ c ∈ cs, isControl c = false)
    (hrun : longestRun '\'' 0 0 cs ≤ 2) (hrest : rest.head? ≠ some '\'') :
    readQuoted (StringForm.multilineLiteral.write cs ++ rest)
      = some (⟨String.ofList cs, true⟩, rest) := by
  have hfront : cs.contains '\n' = false →
      ∃ c ds, cs ++ '\'' :: '\'' :: '\'' :: rest = c :: ds ∧ c ≠ '\n' ∧ c ≠ '\r' := by
    intro hlines
    cases cs with
    | nil => exact ⟨'\'', _, rfl, by decide⟩
    | cons c cs =>
        have hc := hcontrol c List.mem_cons_self
        exact ⟨c, _, rfl, fun h => by simp [h] at hlines, fun h => by simp [h, isControl] at hc⟩
  have hread := readMultiLiteral_append hcontrol hrun hrest
  have hdrop := dropLineBreak_tripled hfront
  simp only [StringForm.write, tripled, List.append_assoc, List.cons_append, List.nil_append]
  show (readMultiLiteral (dropLineBreak _)).map _ = _
  rw [hdrop, hread]
  rfl

/-- **Every text survives its string.** Whatever form is chosen for it, the text is read back, and
what stands behind it is left as it is, unless that begins with another mark. -/
theorem readQuoted_quoted (s : String) {rest : List Char} (hquote : rest.head? ≠ some '"')
    (hapostrophe : rest.head? ≠ some '\'') :
    ∃ multiline, readQuoted ((quoted s).toList ++ rest) = some (⟨s, multiline⟩, rest) := by
  have hs : String.ofList s.toList = s := String.ofList_toList
  have hbasic := readQuoted_basic s.toList hquote
  have hlines := readQuoted_multilineBasic s.toList hquote
  rw [hs] at hbasic hlines
  rw [quoted, String.toList_ofList]
  simp only [StringForm.ofText, Bool.and_eq_true, Bool.not_eq_true', decide_eq_true_eq]
  split_ifs with hplain hliteral hmarks hruns hbreaks
  · exact ⟨false, hbasic⟩
  · obtain ⟨⟨hcontrols, hbreak⟩, hmark⟩ := hliteral
    have htext : ∀ c ∈ s.toList, isTextChar c = true := by
      intro c hc
      have hcontrol := Bool.eq_false_iff.mpr (List.any_eq_false.mp hcontrols c hc)
      refine isTextChar_of_not_isControl hcontrol ?_
      rintro rfl
      simp [hc] at hbreak
    have hread := readQuoted_literal htext (by simpa using hmark) hapostrophe
    rw [hs] at hread
    exact ⟨false, hread⟩
  · exact ⟨true, hlines⟩
  · have hcontrol : ∀ c ∈ s.toList, isControl c = false := fun c hc =>
      Bool.eq_false_iff.mpr (List.any_eq_false.mp hruns.1 c hc)
    have hread := readQuoted_multilineLiteral hcontrol hruns.2 hapostrophe
    rw [hs] at hread
    exact ⟨true, hread⟩
  · exact ⟨true, hlines⟩
  · exact ⟨false, hbasic⟩

end LedgerSearch.Toml
