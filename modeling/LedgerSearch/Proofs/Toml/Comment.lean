import LedgerSearch.Toml.Reader
import Mathlib

/-!
# `LedgerSearch.Proofs.Toml.Comment`: which lines are comments

A line that starts with `#` is a comment as long as it holds nothing but text. Such a line adds no
statement to a file, wherever it stands (`statements_comment`). A control character ends the comment
in the middle of the line, and then what is left of the line is read as TOML. It never is: no key
starts with a control character, and so the whole file has no statements (`statements_broken`).

That settles every line without a line break in it, however it came about.
-/

set_option autoImplicit false

namespace LedgerSearch.Toml

variable {cs rest : List Char} {t : Token}

/-- The statements of a text. -/
def statements (cs : List Char) : Option (List Statement) :=
  (tokens cs).bind readStatements

theorem parse_eq (text : String) :
    parse text = (statements (dropEncodingMark text.toList)).bind assemble := by
  rw [parse, statements, Option.bind_assoc]
  rfl

/-! ### Tokens one after another -/

/-- A character that opens no string and no comment. -/
theorem tokens_cons {c : Char} (hquote : c ≠ '"' ∧ c ≠ '\'') (hcomment : c ≠ '#')
    (hreturn : c ≠ '\r') (cs : List Char) :
    tokens (c :: cs) =
      if isSpace c then
        (tokens (cs.dropWhile isSpace)).map (.space (c :: cs.takeWhile isSpace) :: ·)
      else
        (Token.ofMark? c).elim
          ((tokens (cs.dropWhile fun c => !isMark c)).map
            (.bare (c :: cs.takeWhile fun c => !isMark c) :: ·))
          fun t => (tokens cs).map (t :: ·) := by
  rw [tokens.eq_def]
  simp only [hquote, hcomment, hreturn, or_self, if_false]
  cases Token.ofMark? c <;> rfl

/-- A mark of one character. -/
theorem tokens_mark {c : Char} (h : Token.ofMark? c = some t) (cs : List Char) :
    tokens (c :: cs) = (tokens cs).map (t :: ·) := by
  have hother : ∀ d ∈ ['"', '\'', '#', '\r', ' ', '\t'], c ≠ d := by
    rintro d hd rfl
    simp only [List.mem_cons, List.not_mem_nil, or_false] at hd
    rcases hd with rfl | rfl | rfl | rfl | rfl | rfl <;> cases h
  have hspace : isSpace c = false := by simp [isSpace, hother]
  rw [tokens_cons ⟨hother _ (by simp), hother _ (by simp)⟩ (hother _ (by simp))
    (hother _ (by simp)), hspace, h]
  rfl

/-- A space between two tokens. -/
theorem tokens_space (h : ∀ c ∈ cs.head?, isSpace c = false) :
    tokens (' ' :: cs) = (tokens cs).map (.space [' '] :: ·) := by
  have hrest : cs.dropWhile isSpace = cs ∧ cs.takeWhile isSpace = [] := by
    cases cs with
    | nil => exact ⟨rfl, rfl⟩
    | cons c cs =>
        have hc : isSpace c = false := h c rfl
        simp [hc]
  rw [tokens_cons (by decide) (by decide) (by decide), if_pos (by decide), hrest.1,
    hrest.2]

/-- A character without quotes begins what goes on up to the next mark. -/
theorem tokens_bare_cons {c : Char} (h : isMark c = false) (cs : List Char) :
    tokens (c :: cs) = (tokens (cs.dropWhile fun c => !isMark c)).map
      (.bare (c :: cs.takeWhile fun c => !isMark c) :: ·) := by
  simp only [isMark, Bool.or_eq_false_iff, decide_eq_false_iff_not] at h
  have hspace : isSpace c = false := by simp [isSpace, h]
  have hmark : Token.ofMark? c = none := by simp [Token.ofMark?, h]
  rw [tokens_cons (by simp [h]) (by simp [h]) (by simp [h]), hspace, hmark]
  rfl

/-- Characters without quotes, up to a mark. -/
theorem tokens_bare {word : List Char} (hword : ∀ c ∈ word, isMark c = false) (hne : word ≠ [])
    {mark : Char} (hmark : isMark mark = true) (rest : List Char) :
    tokens (word ++ mark :: rest) = (tokens (mark :: rest)).map (.bare word :: ·) := by
  obtain ⟨c, word, rfl⟩ := List.exists_cons_of_ne_nil hne
  have hlater : ∀ d ∈ word, (!isMark d) = true := fun d hd => by
    simp [hword d (List.mem_cons_of_mem c hd)]
  rw [List.cons_append, tokens_bare_cons (hword c List.mem_cons_self),
    List.dropWhile_append_of_pos hlater, List.takeWhile_append_of_pos hlater]
  simp [hmark]

/-- A string begins with a quote or an apostrophe. -/
theorem readQuoted_front {r : Quoted × List Char} (h : readQuoted cs = some r) :
    ∃ c ds, cs = c :: ds ∧ (c = '"' ∨ c = '\'') := by
  cases cs with
  | nil => simp [readQuoted] at h
  | cons c ds =>
      refine ⟨c, ds, rfl, ?_⟩
      by_contra hc
      rw [not_or] at hc
      simp [readQuoted, hc] at h

/-- A string. -/
theorem tokens_quoted {q : Quoted} (h : readQuoted cs = some (q, rest)) :
    tokens cs = (tokens rest).map (.quoted q :: ·) := by
  obtain ⟨c, ds, rfl, hquote⟩ := readQuoted_front h
  rw [tokens.eq_def]
  simp only [hquote, if_true]
  split
  case h_1 hnone => simp [h] at hnone
  case h_2 q' rest' hsome =>
    obtain ⟨rfl, rfl⟩ := Prod.mk.inj (Option.some.inj (hsome.symm.trans h))
    rfl

/-! ### Comments -/

/-- Of a comment only the end of its line is left. -/
theorem tokens_comment (h : ∀ c ∈ cs, isTextChar c = true) (rest : List Char) :
    tokens ('#' :: (cs ++ rest)) = tokens (rest.dropWhile isTextChar) := by
  rw [tokens.eq_def]
  simp only [Char.reduceEq, or_self, if_false, if_true]
  rw [List.dropWhile_append_of_pos h]

/-- An empty line adds no statement. -/
theorem statements_lineBreak (rest : List Char) :
    statements ('\n' :: rest) = statements rest := by
  rw [statements, tokens_mark (t := .lineBreak) rfl, statements]
  cases tokens rest with
  | none => rfl
  | some ts => rw [Option.map_some, Option.bind_some, readStatements, Option.bind_some]

/-- A line of text behind `#` adds no statement. -/
theorem statements_comment (h : ∀ c ∈ cs, isTextChar c = true) (rest : List Char) :
    statements ('#' :: (cs ++ '\n' :: rest)) = statements rest := by
  rw [statements, tokens_comment h, List.dropWhile_cons_of_neg (by decide), ← statements,
    statements_lineBreak]

/-- A control character is neither a mark nor part of a key. -/
theorem not_isMark_of_not_isTextChar {c : Char} (h : isTextChar c = false) (hbreak : c ≠ '\n')
    (hreturn : c ≠ '\r') : isMark c = false ∧ isKeyChar c = false := by
  have hall : ∀ n < 128, isTextChar (Char.ofNat n) = false → Char.ofNat n ≠ '\n' →
      Char.ofNat n ≠ '\r' → isMark (Char.ofNat n) = false ∧ isKeyChar (Char.ofNat n) = false := by
    decide
  have hsmall : c.toNat < 128 := by
    simp only [isTextChar, Bool.or_eq_false_iff, Bool.and_eq_false_iff, decide_eq_false_iff_not,
      bne_eq_false_iff_eq] at h
    omega
  rw [← Char.ofNat_toNat c] at h hbreak hreturn ⊢
  exact hall c.toNat hsmall h hbreak hreturn

/-- No statement begins with what is no key. -/
theorem readStatements_bare {word : List Char} (hkey : word.all isKeyChar = false)
    (ts : List Token) : readStatements (.bare word :: ts) = none := by
  have hparts : readKeyParts (.bare word :: ts) = none := by
    rw [readKeyParts]
    simp [keyOf?, hkey]
  have hstatement : readStatement (.bare word :: ts) = none := by
    rw [readStatement, readKey, hparts]
    all_goals simp
  rw [readStatements, hstatement]
  all_goals simp

/-- A line that begins with what is no key cannot be read. -/
theorem statements_bare {word : List Char} (hword : ∀ c ∈ word, isMark c = false) (hne : word ≠ [])
    (hkey : word.all isKeyChar = false) {mark : Char} (hmark : isMark mark = true)
    (rest : List Char) : statements (word ++ mark :: rest) = none := by
  rw [statements, tokens_bare hword hne hmark]
  cases tokens (mark :: rest) with
  | none => rfl
  | some ts => exact readStatements_bare hkey ts

/-- Nothing that can be read begins with a control character, unless it is part of a line break. -/
theorem statements_control {c d : Char} (hc : isTextChar c = false) (hbreak : c ≠ '\n')
    (hd : d ≠ '\n') (cs : List Char) : statements (c :: d :: cs) = none := by
  by_cases hreturn : c = '\r'
  · subst hreturn
    have hnone : tokens ('\r' :: d :: cs) = none := by
      rw [tokens.eq_def]
      simp [hd]
    rw [statements, hnone, Option.bind_none]
  · obtain ⟨hmark, hkey⟩ := not_isMark_of_not_isTextChar hc hbreak hreturn
    rw [statements, tokens_bare_cons hmark]
    cases tokens ((d :: cs).dropWhile fun c => !isMark c) with
    | none => rfl
    | some ts => exact readStatements_bare (by simp [hkey]) ts

/-- A line behind `#` with a control character in it leaves the whole file without statements,
unless the character is the last of the line. -/
theorem statements_broken {last : Char} (hline : '\n' ∉ cs ++ [last])
    (h : ∃ c ∈ cs, isTextChar c = false) (rest : List Char) :
    statements ('#' :: (cs ++ last :: rest)) = none := by
  -- the comment ends in front of the first control character
  obtain ⟨c, hc, htext⟩ := h
  have hne : cs.dropWhile isTextChar ≠ [] := by
    intro hnil
    simp [List.dropWhile_eq_nil_iff.mp hnil c hc] at htext
  obtain ⟨c, more, hdrop⟩ := List.exists_cons_of_ne_nil hne
  have hcontrol : isTextChar c = false := by
    have := List.head_dropWhile_not isTextChar hne
    simpa [hdrop] using this
  have hsplit : cs.takeWhile isTextChar ++ c :: more = cs := by
    rw [← hdrop, List.takeWhile_append_dropWhile]
  have hfront : ∀ c ∈ cs.takeWhile isTextChar, isTextChar c = true := fun c hc =>
    List.mem_takeWhile_imp hc
  rw [← hsplit, List.append_assoc, statements, tokens_comment hfront, List.cons_append,
    List.dropWhile_cons_of_neg (by simp [hcontrol]), ← statements]
  rw [← hsplit] at hline
  -- and another character of the line comes behind it
  cases more with
  | nil => exact statements_control hcontrol (by grind) (by grind) rest
  | cons d more => exact statements_control hcontrol (by grind) (by grind) _

end LedgerSearch.Toml
