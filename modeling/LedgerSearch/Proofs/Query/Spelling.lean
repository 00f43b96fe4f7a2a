import LedgerSearch.Proofs.Query.Tiling

/-!
# `LedgerSearch.Proofs.Query.Spelling`: tokens that are written out are read back

`LedgerSearch.Proofs.Query.Tiling` starts from a query and finds in it the spellings of its tokens.
This module goes the other way. It takes a row of tokens, writes them one after another with blanks
between them, and asks the lexer for the tokens of that text. `tokens_lex_of_writes` says that these
are the tokens of the row again, with the end of the query behind them.

Nothing is fixed about the writing but that each token is spelled in one of its ways
(`Token.IsSpelling`) and that some blank stands between two tokens (`Writes`): an operator may be in
any mixture of capitals and small letters, and the blanks may be any that Unicode has. Of the tokens
only those are asked for that have a spelling of their own (`Token.IsPrintable`). A word that spells
an operator is not among them, nor a phrase with a quote in it.

Each spelling ends at the blank behind it, also where it could go on. That is one lemma,
`Token.IsSpelling.tokensOf_append`, with a case for each kind of token. The theorem is then an
induction along the row.
-/

set_option autoImplicit false

namespace LedgerSearch.Query

open LedgerSearch.Text

/-! ### How a token is written in front of a blank -/

/-- The characters are a way to write the token. -/
def Token.IsSpelling : Token → List Char → Prop
  | .term text, s => s = text.toList
  | .phrase text, s => s = '"' :: (text.toList ++ ['"'])
  | .and, s => IsCaseVariant s ['A', 'N', 'D']
  | .or, s => IsCaseVariant s ['O', 'R']
  | .not, s => IsCaseVariant s ['N', 'O', 'T']
  | .openParen, s => s = ['(']
  | .closeParen, s => s = [')']
  | .endOfQuery, _ => False

/-- The token can be told from its spelling. A word must be one word and no operator, a phrase must
not hold the quote that would end it. -/
def Token.IsPrintable : Token → Prop
  | .term text => text ≠ "" ∧
    (∀ c ∈ text.toList, isBlank c = false ∧ c ≠ '(' ∧ c ≠ ')' ∧ c ≠ '"') ∧
    ∀ t ∈ [Token.and, .or, .not], ¬ t.IsSpelling text.toList
  | .phrase text => '"' ∉ text.toList
  | .endOfQuery => False
  | .and | .or | .not | .openParen | .closeParen => True

instance (word capitals : List Char) : Decidable (IsCaseVariant word capitals) :=
  inferInstanceAs (Decidable (List.Forall₂ _ word capitals))

instance : (t : Token) → (s : List Char) → Decidable (t.IsSpelling s)
  | .term text, s => inferInstanceAs (Decidable (s = text.toList))
  | .phrase text, s => inferInstanceAs (Decidable (s = '"' :: (text.toList ++ ['"'])))
  | .and, s => inferInstanceAs (Decidable (IsCaseVariant s ['A', 'N', 'D']))
  | .or, s => inferInstanceAs (Decidable (IsCaseVariant s ['O', 'R']))
  | .not, s => inferInstanceAs (Decidable (IsCaseVariant s ['N', 'O', 'T']))
  | .openParen, s => inferInstanceAs (Decidable (s = ['(']))
  | .closeParen, s => inferInstanceAs (Decidable (s = [')']))
  | .endOfQuery, _ => inferInstanceAs (Decidable False)

instance : DecidablePred Token.IsPrintable
  | .term text =>
    -- only the characters of the word are looked at, not all there are
    letI : Decidable (∀ c ∈ text.toList, isBlank c = false ∧ c ≠ '(' ∧ c ≠ ')' ∧ c ≠ '"') :=
      List.decidableBAll _ text.toList
    inferInstanceAs (Decidable (text ≠ "" ∧
      (∀ c ∈ text.toList, isBlank c = false ∧ c ≠ '(' ∧ c ≠ ')' ∧ c ≠ '"') ∧
      ∀ t ∈ [Token.and, .or, .not], ¬ t.IsSpelling text.toList))
  | .phrase text => inferInstanceAs (Decidable ('"' ∉ text.toList))
  | .endOfQuery => inferInstanceAs (Decidable False)
  | .and | .or | .not | .openParen | .closeParen => inferInstanceAs (Decidable True)

/-- The text is the tokens written one after another. Between two of them stands at least one blank,
and blanks may stand behind the last. -/
inductive Writes : List Token → List Char → Prop
  | nil : Writes [] []
  | last {t : Token} (spelling gap : List Char) (hs : t.IsSpelling spelling)
      (hgap : ∀ c ∈ gap, isBlank c = true) : Writes [t] (spelling ++ gap)
  | next {t u : Token} {ts : List Token} {cs : List Char} (spelling gap : List Char)
      (hs : t.IsSpelling spelling) (hne : gap ≠ []) (hgap : ∀ c ∈ gap, isBlank c = true)
      (h : Writes (u :: ts) cs) : Writes (t :: u :: ts) (spelling ++ (gap ++ cs))

section
variable {t : Token} {ts : List Token} {spelling word capitals gap front cs rest : List Char}

/-- A blank cannot stand in a word. -/
theorem isWordChar_of_isBlank {c : Char} (hc : isBlank c = true) : isWordChar c = false := by
  simp [isWordChar, hc]

theorem isWordChar_of_isUpper {c : Char} (hc : c.isUpper = true) :
    isWordChar c = true ∧ isWordChar c.toLower = true := by
  -- capitals are a few code points, so each can be looked at
  have key : ∀ n < 0x80, (Char.ofNat n).isUpper = true →
      isWordChar (Char.ofNat n) = true ∧ isWordChar (Char.ofNat n).toLower = true := by
    decide
  have hascii : c.toNat < 0x80 := by
    unfold Char.isUpper at hc
    simp only [ge_iff_le, decide_eq_true_eq, UInt32.le_iff_toNat_le] at hc
    have hZ : 'Z'.val.toNat = 90 := rfl
    show c.val.toNat < 128
    omega
  simpa using key c.toNat hascii (by simpa using hc)

/-- A word in the letters of an operator is made of characters that can stand in a word. -/
theorem isWordChar_of_isCaseVariant (hupper : ∀ k ∈ capitals, k.isUpper = true)
    (hcase : IsCaseVariant word capitals) : ∀ c ∈ word, isWordChar c = true := by
  intro c hc
  have hcapital : c.toUpper.isUpper = true := by
    refine hupper c.toUpper ?_
    rw [← (isCaseVariant_iff hupper).mp hcase]
    exact List.mem_map_of_mem hc
  obtain h | h := (toUpper_eq_iff hcapital).mp rfl
  · rw [h]
    exact (isWordChar_of_isUpper hcapital).1
  · rw [h]
    exact (isWordChar_of_isUpper hcapital).2

/-- Blanks in front of a text add no token. -/
theorem tokensOf_blanks (hgap : ∀ c ∈ gap, isBlank c = true) :
    tokensOf (gap ++ cs) = tokensOf cs := by
  induction gap with
  | nil => rfl
  | cons c gap ih =>
      rw [List.cons_append, tokensOf_blank (hgap c List.mem_cons_self)]
      exact ih fun d hd => hgap d (List.mem_cons_of_mem c hd)

/-- The letters of an operator, in front of a blank or at the end, are that operator. -/
theorem tokensOf_caseVariant (ht : t.capitals = some capitals) (hcase : IsCaseVariant word capitals)
    (hrest : ∀ c ∈ rest.head?, isBlank c = true) :
    tokensOf (word ++ rest) = t :: tokensOf rest := by
  have hupper := Token.isUpper_of_mem_capitals ht
  have hne : word ≠ [] := by
    rintro rfl
    cases hcase
    cases t <;> cases ht
  have hword : ∀ c ∈ word, isWordChar c = true := isWordChar_of_isCaseVariant hupper hcase
  have hkey : Token.keyword? (String.ofList word) = some t :=
    Token.keyword?_eq_some_iff.mpr ⟨capitals, ht, hcase⟩
  rw [tokensOf_word hne hword fun c hc => isWordChar_of_isBlank (hrest c hc), Token.ofWord, hkey]
  rfl

/-- **A spelling in front of a blank is its token.** The end of the query will do for the blank. -/
theorem Token.IsSpelling.tokensOf_append (hs : t.IsSpelling spelling) (ht : t.IsPrintable)
    (hrest : ∀ c ∈ rest.head?, isBlank c = true) :
    tokensOf (spelling ++ rest) = t :: tokensOf rest := by
  cases t with
  | term text =>
      obtain rfl : spelling = text.toList := hs
      obtain ⟨hne, hchars, hplain⟩ := ht
      have hkey : Token.keyword? text = none := by
        rw [Option.eq_none_iff_forall_ne_some]
        intro t hkey
        rw [← String.ofList_toList (s := text)] at hkey
        obtain ⟨capitals, ht, hcase⟩ := Token.keyword?_eq_some_iff.mp hkey
        -- only the operators have letters of their own
        have hoperator : t ∈ [Token.and, .or, .not] ∧ t.IsSpelling text.toList := by
          cases t <;> cases ht <;> exact ⟨by decide, hcase⟩
        exact hplain t hoperator.1 hoperator.2
      rw [tokensOf_word (by simpa using hne) (fun c hc => isWordChar_iff.mpr (hchars c hc))
        fun c hc => isWordChar_of_isBlank (hrest c hc), String.ofList_toList, Token.ofWord, hkey]
      rfl
  | phrase text =>
      obtain rfl : spelling = '"' :: (text.toList ++ ['"']) := hs
      have hchars : '"' :: (text.toList ++ ['"']) ++ rest
          = '"' :: (text.toList ++ '"' :: rest) := by
        simp
      rw [hchars, tokensOf_phrase ht, String.ofList_toList]
  | and => exact tokensOf_caseVariant rfl hs hrest
  | or => exact tokensOf_caseVariant rfl hs hrest
  | not => exact tokensOf_caseVariant rfl hs hrest
  | openParen =>
      obtain rfl : spelling = ['('] := hs
      exact tokensOf_openParen
  | closeParen =>
      obtain rfl : spelling = [')'] := hs
      exact tokensOf_closeParen
  | endOfQuery => exact absurd hs not_false

end

/-! ### Rows of tokens -/

theorem tokensOf_of_writes {ts : List Token} {cs : List Char} (hts : ∀ t ∈ ts, t.IsPrintable)
    (h : Writes ts cs) : tokensOf cs = ts ++ [.endOfQuery] := by
  induction h with
  | nil => exact tokensOf_nil
  | @last t spelling gap hs hgap =>
      have ht := hts t List.mem_cons_self
      have hhead : ∀ c ∈ gap.head?, isBlank c = true := by
        intro c hc
        exact hgap c (List.mem_of_mem_head? hc)
      have hgap' : tokensOf gap = [.endOfQuery] := by
        rw [← List.append_nil gap, tokensOf_blanks hgap, tokensOf_nil]
      rw [hs.tokensOf_append ht hhead, hgap']
      rfl
  | @next t u ts cs spelling gap hs hne hgap _ ih =>
      have ht := hts t List.mem_cons_self
      -- the gap is not empty, so the spelling ends at its first blank
      have hhead : ∀ c ∈ (gap ++ cs).head?, isBlank c = true := by
        intro c hc
        rw [List.head?_append_of_ne_nil gap hne] at hc
        exact hgap c (List.mem_of_mem_head? hc)
      rw [hs.tokensOf_append ht hhead, tokensOf_blanks hgap,
        ih fun v hv => hts v (List.mem_cons_of_mem t hv)]
      rfl

/-- **Tokens that are written out are read back.** Take a row of tokens that can be told from their
spellings, written in any of their ways with blanks between them, before and behind. The lexer gives
the row back, with the end of the query behind it. -/
theorem tokens_lex_of_writes {ts : List Token} {front cs : List Char}
    (hts : ∀ t ∈ ts, t.IsPrintable) (hfront : ∀ c ∈ front, isBlank c = true) (h : Writes ts cs) :
    (lex (String.ofList (front ++ cs))).map (·.token) = ts ++ [.endOfQuery] := by
  show tokensOf (String.ofList (front ++ cs)).toList = ts ++ [Token.endOfQuery]
  rw [String.toList_ofList, tokensOf_blanks hfront, tokensOf_of_writes hts h]

/-- A word that begins like an operator, operators in mixed letters and a phrase of punctuation and
an operator, with blanks of several kinds between them. -/
theorem tokens_lex_of_writes_mixed :
    let ts := [Token.term "notes", .and, .phrase "( or", .not, .openParen, .term "é", .closeParen]
    let front := ['\u3000']
    let cs := "notes\taNd \"( or\" \n noT ( é )".toList
    (∀ t ∈ ts, t.IsPrintable) ∧ (∀ c ∈ front, isBlank c = true) ∧ Writes ts cs ∧
      (lex (String.ofList (front ++ cs))).map (·.token) = ts ++ [.endOfQuery] := by
  intro ts front cs
  have hts : ∀ t ∈ ts, t.IsPrintable := by decide
  have hblank : ∀ gap ∈ [[], [' '], ['\t'], " \n ".toList], ∀ c ∈ gap, isBlank c = true :=
    fun gap hgap => List.all_eq_true.mp (by revert gap; decide)
  have hfront : ∀ c ∈ front, isBlank c = true := List.all_eq_true.mp (by decide)
  have hgroup : Writes [.openParen, .term "é", .closeParen] "( é )".toList :=
    .next ['('] [' '] rfl (by decide) (hblank _ (by decide))
      (.next ['é'] [' '] rfl (by decide) (hblank _ (by decide))
        (.last [')'] [] rfl (hblank _ (by decide))))
  have hcs : Writes ts cs :=
    .next "notes".toList ['\t'] rfl (by decide) (hblank _ (by decide))
      (.next "aNd".toList [' '] (by decide) (by decide) (hblank _ (by decide))
        (.next "\"( or\"".toList " \n ".toList rfl (by decide) (hblank _ (by decide))
          (.next "noT".toList [' '] (by decide) (by decide) (hblank _ (by decide)) hgroup)))
  exact ⟨hts, hfront, hcs, tokens_lex_of_writes hts hfront hcs⟩

end LedgerSearch.Query
