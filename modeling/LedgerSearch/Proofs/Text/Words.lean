import LedgerSearch.Text.Blank

/-!
# `LedgerSearch.Proofs.Text.Words`: the words of a text, piece by piece

`words` cuts a text at its blanks and drops the empty pieces. The lemmas below give the words of a
text from those of its parts: a blank anywhere parts the words on its left from those on its right
(`words_append_blank`), and what stands in front of a blank without holding one is a word
(`words_word`). So texts with blanks between them have the words of the one and of the other
(`words_append_blanks`), and words that are joined by blanks are found again (`words_intercalate`).
Where the characters are replaced by others one by one, and blanks only by blanks, the words are
replaced in the same way (`words_map`).

Those that look at single characters speak of `String.ofList`, since what is said of a text is said
of its characters.
-/

set_option autoImplicit false

namespace LedgerSearch.Text

variable {c : Char} {cs word rest : List Char}

theorem words_nil : words (String.ofList []) = [] := by
  rw [words, String.toList_ofList, List.splitOnP_nil]
  rfl

/-- A blank parts the words on its two sides. -/
theorem words_append_blank (cs rest : List Char) (hc : isBlank c = true) :
    words (String.ofList (cs ++ c :: rest))
      = words (String.ofList cs) ++ words (String.ofList rest) := by
  simp only [words, String.toList_ofList]
  rw [List.splitOnP_append_cons cs rest hc, List.filter_append, List.map_append]

theorem words_blank (hc : isBlank c = true) :
    words (String.ofList (c :: cs)) = words (String.ofList cs) := by
  have h := words_append_blank [] cs hc
  rwa [words_nil, List.nil_append, List.nil_append] at h

/-- A text without a blank is one word. -/
theorem words_eq_singleton (hne : word ≠ []) (hword : ∀ c ∈ word, isBlank c = false) :
    words (String.ofList word) = [String.ofList word] := by
  rw [words, String.toList_ofList, List.splitOnP_eq_singleton hword]
  cases word with
  | nil => exact absurd rfl hne
  | cons c word => rfl

/-- What stands in front of a blank, or of the end, without a blank in it is a word. -/
theorem words_word (hne : word ≠ []) (hword : ∀ c ∈ word, isBlank c = false)
    (hrest : ∀ c ∈ rest.head?, isBlank c = true) :
    words (String.ofList (word ++ rest))
      = String.ofList word :: words (String.ofList rest) := by
  cases rest with
  | nil => rw [List.append_nil, words_eq_singleton hne hword, words_nil]
  | cons c rest =>
      have hc : isBlank c = true := hrest c rfl
      rw [words_append_blank word rest hc, words_eq_singleton hne hword, words_blank hc]
      rfl

/-- Blanks in front of a text make no difference. -/
theorem words_blanks {blanks : List Char} (hblanks : ∀ c ∈ blanks, isBlank c = true) :
    words (String.ofList (blanks ++ cs)) = words (String.ofList cs) := by
  induction blanks with
  | nil => rfl
  | cons c blanks ih =>
      obtain ⟨hc, hrest⟩ := List.forall_mem_cons.mp hblanks
      rw [List.cons_append, words_blank hc, ih hrest]

/-- Texts with blanks between them have the words of the one and then those of the other. -/
theorem words_append_blanks {s blanks t : String} (hne : blanks ≠ "")
    (hblanks : ∀ c ∈ blanks.toList, isBlank c = true) :
    words (s ++ blanks ++ t) = words s ++ words t := by
  obtain ⟨c, cs, hcs⟩ : ∃ c cs, blanks.toList = c :: cs :=
    List.exists_cons_of_ne_nil fun hnil => hne (String.toList_eq_nil_iff.mp hnil)
  rw [hcs, List.forall_mem_cons] at hblanks
  have htext : s ++ blanks ++ t = String.ofList (s.toList ++ c :: (cs ++ t.toList)) := by
    rw [← String.ofList_toList (s := s ++ blanks ++ t), String.toList_append, String.toList_append,
      hcs, List.append_assoc, List.cons_append]
  rw [htext, words_append_blank _ _ hblanks.1, words_blanks hblanks.2, String.ofList_toList,
    String.ofList_toList]

/-- Words with a blank between any two of them are the words of the text. -/
theorem words_intercalate {ws : List String}
    (h : ∀ word ∈ ws, word ≠ "" ∧ ∀ c ∈ word.toList, isBlank c = false) :
    words (" ".intercalate ws) = ws := by
  have hone : ∀ word ∈ ws, words word = [word] := by
    intro word hword
    obtain ⟨hne, hsolid⟩ := h word hword
    have hsingle := words_eq_singleton (fun hnil => hne (String.toList_eq_nil_iff.mp hnil)) hsolid
    rwa [String.ofList_toList] at hsingle
  induction ws with
  | nil => exact words_nil
  | cons word ws ih =>
      obtain ⟨hword, hrest⟩ := List.forall_mem_cons.mp hone
      cases ws with
      | nil => rw [String.intercalate_singleton, hword]
      | cons next ws =>
          have hblanks : ∀ c ∈ " ".toList, isBlank c = true := List.all_eq_true.mp (by decide)
          rw [String.intercalate_cons_cons, words_append_blanks (by decide) hblanks, hword,
            ih (fun w hw => h w (List.mem_cons_of_mem word hw)) hrest]
          rfl

/-- The pieces of a text are made of its characters, without those that cut it. -/
theorem of_mem_splitOnP {p : Char → Bool} {piece : List Char} (h : piece ∈ cs.splitOnP p) :
    ∀ c ∈ piece, c ∈ cs ∧ p c = false := by
  induction cs generalizing piece with
  | nil =>
      rw [List.splitOnP_nil, List.mem_singleton] at h
      subst h
      exact fun c hc => absurd hc List.not_mem_nil
  | cons d cs ih =>
      have hcons : ∀ {piece}, piece ∈ cs.splitOnP p → ∀ c ∈ piece, c ∈ d :: cs ∧ p c = false := by
        intro piece hpiece c hc
        exact ⟨List.mem_cons_of_mem d (ih hpiece c hc).1, (ih hpiece c hc).2⟩
      rw [List.splitOnP_cons_eq_if_modifyHead] at h
      split at h
      · rcases List.mem_cons.mp h with rfl | h
        · exact fun c hc => absurd hc List.not_mem_nil
        · exact hcons h
      · rename_i hd
        -- the character stands in front of the first piece
        obtain ⟨first, pieces, hsplit⟩ := List.exists_cons_of_ne_nil (List.splitOnP_ne_nil p cs)
        rw [hsplit, List.modifyHead_cons] at h
        rw [hsplit] at hcons
        rcases List.mem_cons.mp h with rfl | h
        · intro c hc
          rcases List.mem_cons.mp hc with rfl | hc
          · exact ⟨List.mem_cons_self, Bool.not_eq_true _ ▸ hd⟩
          · exact hcons List.mem_cons_self c hc
        · exact hcons (List.mem_cons_of_mem first h)

/-- A word is a piece of the text that is not empty and holds no blank. -/
theorem of_mem_words {s word : String} (h : word ∈ words s) :
    word ≠ "" ∧ ∀ c ∈ word.toList, c ∈ s.toList ∧ isBlank c = false := by
  obtain ⟨piece, hpiece, rfl⟩ := List.mem_map.mp h
  obtain ⟨hmem, hne⟩ := List.mem_filter.mp hpiece
  rw [String.toList_ofList]
  exact ⟨by simpa using hne, of_mem_splitOnP hmem⟩

/-- The pieces of a text whose characters are replaced one by one. -/
theorem splitOnP_map (p : Char → Bool) (f : Char → Char) (cs : List Char) :
    (cs.map f).splitOnP p = (cs.splitOnP fun c => p (f c)).map (List.map f) := by
  induction cs with
  | nil => rw [List.map_nil, List.splitOnP_nil, List.splitOnP_nil]; rfl
  | cons c cs ih =>
      rw [List.map_cons, List.splitOnP_cons_eq_if_modifyHead,
        List.splitOnP_cons_eq_if_modifyHead, ih]
      split
      · rfl
      · -- the character joins the first piece, before or after the replacement
        cases cs.splitOnP fun c => p (f c) with
        | nil => rfl
        | cons piece pieces => rfl

/-- Where blanks stay blanks and nothing else becomes one, the words stay the words. -/
theorem words_map {f : Char → Char} (hf : ∀ c, isBlank (f c) = isBlank c) (cs : List Char) :
    words (String.ofList (cs.map f))
      = (words (String.ofList cs)).map fun word => String.ofList (word.toList.map f) := by
  simp only [words, String.toList_ofList]
  rw [splitOnP_map, List.filter_map, List.map_map, List.map_map]
  simp [hf, Function.comp_def]

end LedgerSearch.Text
