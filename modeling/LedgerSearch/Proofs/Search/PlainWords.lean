import LedgerSearch.Proofs.Query.Spelling
import LedgerSearch.Proofs.Search.Explanation
import LedgerSearch.Proofs.Text.Words

/-!
# `LedgerSearch.Proofs.Search.PlainWords`: queries without punctuation

Most queries are a few words. Of such a query both searches make the same: the grammar reads the
words as operands side by side, and the word search takes them apart at the blanks. The two have no
code in common. The lexer ends a word at the next character that cannot stand in one, `Text.words`
cuts the whole text at its blanks. One of them puts the words into a tree and asks the tree, the
other asks for the words one after another.

`searchOrWords_of_isPlain` states that it makes no difference which of the two answers. It allows
the word `AND`, which both leave out of the words to look for, and excludes `OR` and `NOT`, to which
the word search is blind (`IsPlain`). A stray `AND` makes the query a malformed one, and without
`implicitAnd` so do two words side by side. Then the word search answers in any case. With
`implicitAnd` and without `AND` the grammar always answers, with the words joined by `AND`.
-/

set_option autoImplicit false

namespace LedgerSearch.Search

open LedgerSearch.Ledger
open LedgerSearch.Query
open LedgerSearch.Text

/-- The query is words and blanks, and none of the words is `OR` or `NOT`. -/
structure IsPlain (query : String) : Prop where
  noMark : ∀ c ∈ query.toList, c ≠ '"' ∧ c ≠ '(' ∧ c ≠ ')'
  noOr : ∀ word ∈ words query, ¬ Token.or.IsSpelling word.toList
  noNot : ∀ word ∈ words query, ¬ Token.not.IsSpelling word.toList

instance (query : String) : Decidable (IsPlain query) :=
  letI : Decidable (∀ c ∈ query.toList, c ≠ '"' ∧ c ≠ '(' ∧ c ≠ ')') :=
    List.decidableBAll _ query.toList
  decidable_of_iff ((∀ c ∈ query.toList, c ≠ '"' ∧ c ≠ '(' ∧ c ≠ ')') ∧
      (∀ word ∈ words query, ¬ Token.or.IsSpelling word.toList) ∧
      ∀ word ∈ words query, ¬ Token.not.IsSpelling word.toList)
    ⟨fun h => ⟨h.1, h.2.1, h.2.2⟩, fun h => ⟨h.noMark, h.noOr, h.noNot⟩⟩

/-! ### The tokens of a plain query -/

/-- A word whose token has no text of its own spells an operator. -/
theorem isSpelling_of_ofWord {word : String} {t : Token} (h : Token.ofWord word = t)
    (ht : t.text? = none) : t.IsSpelling word.toList := by
  have hkey : Token.keyword? (String.ofList word.toList) = some t := by
    rw [String.ofList_toList]
    cases hkey : Token.keyword? word with
    | some u =>
        rw [Token.ofWord, hkey] at h
        exact congrArg some h
    | none =>
        -- the word would be a term, and its own text
        rw [Token.ofWord, hkey] at h
        subst h
        cases ht
  obtain ⟨capitals, hcapitals, hcase⟩ := Token.keyword?_eq_some_iff.mp hkey
  cases t <;> cases hcapitals <;> exact hcase

/-- Without punctuation the tokens of a text are those of its words. -/
theorem tokensOf_eq_words {cs : List Char} (hmarks : ∀ c ∈ cs, c ≠ '"' ∧ c ≠ '(' ∧ c ≠ ')') :
    tokensOf cs = (words (String.ofList cs)).map Token.ofWord ++ [.endOfQuery] := by
  induction cs using text_induction with
  | nil => rw [tokensOf_nil, words_nil]; rfl
  | blank c cs hc ih =>
      rw [tokensOf_blank hc, words_blank hc]
      exact ih fun d hd => hmarks d (List.mem_cons_of_mem c hd)
  | openParen cs _ => exact absurd rfl (hmarks '(' List.mem_cons_self).2.1
  | closeParen cs _ => exact absurd rfl (hmarks ')' List.mem_cons_self).2.2
  | phrase text rest _ _ => exact absurd rfl (hmarks '"' List.mem_cons_self).1
  | openPhrase text _ => exact absurd rfl (hmarks '"' List.mem_cons_self).1
  | word word rest hne hword hrest ih =>
      have hsolid : ∀ c ∈ word, isBlank c = false := by
        intro c hc
        exact (isWordChar_iff.mp (hword c hc)).1
      -- no punctuation stops the word, so a blank does
      have hblank : ∀ c ∈ rest.head?, isBlank c = true := by
        intro c hc
        have hmark := hmarks c (List.mem_append_right word (List.mem_of_mem_head? hc))
        have hstop := hrest c hc
        simp only [isWordChar, Bool.not_eq_false', Bool.or_eq_true, beq_iff_eq] at hstop
        tauto
      have hrest' := ih fun c hc => hmarks c (List.mem_append_right word hc)
      rw [tokensOf_word hne hword hrest, words_word hne hsolid hblank, hrest']
      rfl

/-- The token of a word has the word for its text, unless the word spells an operator. -/
theorem text?_ofWord (word : String) :
    (Token.ofWord word).text? = if Token.isKeyword word then none else some word := by
  unfold Token.ofWord Token.isKeyword Token.keyword?
  dsimp only
  split_ifs <;> simp_all [Token.text?]

/-- The word search looks for the texts of the tokens. -/
theorem wordTerms_eq_texts {query : String}
    (hmarks : ∀ c ∈ query.toList, c ≠ '"' ∧ c ≠ '(' ∧ c ≠ ')') :
    wordTerms query
      = (((words query).map Token.ofWord).filterMap Token.text?).map lower := by
  -- no word holds punctuation that would have to be taken out
  have hstrip : ∀ word ∈ words query,
      String.ofList (word.toList.filter fun c => !isQueryMark c) = word := by
    intro word hword
    have hkeep : ∀ c ∈ word.toList, (!isQueryMark c) = true := by
      intro c hc
      have hmark := hmarks c ((of_mem_words hword).2 c hc).1
      simp [isQueryMark, hmark]
    rw [List.filter_eq_self.mpr hkeep, String.ofList_toList]
  have hne : ∀ word ∈ words query, (!word.isEmpty) = true := by
    intro word hword
    simpa [String.isEmpty_iff] using (of_mem_words hword).1
  rw [wordTerms, List.map_congr_left hstrip, List.map_id', List.filterMap_map]
  congr 1
  rw [← List.filterMap_eq_filter]
  refine List.filterMap_congr fun word hword => ?_
  show (Option.guard _ word) = (Token.ofWord word).text?
  rw [text?_ofWord, Option.guard, hne word hword, Bool.true_and]
  cases Token.isKeyword word <;> rfl

/-- The tokens of a plain query are terms and `AND`. -/
theorem IsPlain.token_cases {query : String} (h : IsPlain query) :
    ∀ t ∈ (words query).map Token.ofWord, t = .and ∨ ∃ text, t = .term text := by
  intro t ht
  obtain ⟨word, hword, rfl⟩ := List.mem_map.mp ht
  rcases Token.ofWord_cases word with hand | hor | hnot | hterm
  · exact .inl hand
  · exact absurd (isSpelling_of_ofWord hor rfl) (h.noOr word hword)
  · exact absurd (isSpelling_of_ofWord hnot rfl) (h.noNot word hword)
  · exact .inr ⟨word, hterm⟩

/-! ### What both searches make of it -/

section
variable {implicitAnd : Bool} {rule : Rule} {ts : List Token} {ws : List String} {e : Expr}

/-- A sentence of terms and `AND` holds of a document that contains all its terms. -/
theorem satisfies_of_plain_sentence (h : Derives implicitAnd rule ts e)
    (hplain : ∀ t ∈ ts, t = .and ∨ ∃ text, t = .term text) (d : Document) :
    d.satisfies e = ((ts.filterMap Token.text?).map lower).all d.contains := by
  induction h with
  | term text =>
      show d.contains (fold text) = (d.contains (lower text) && true)
      rw [fold_eq_lower, Bool.and_true]
  | phrase text => simpa using hplain (.phrase text) (by simp)
  | group _ _ => simpa using hplain .openParen (by simp)
  | primary _ ih => exact ih hplain
  | not _ _ => simpa using hplain .not (by simp)
  | negation _ ih => exact ih hplain
  | and _ _ ihl ihr =>
      -- the operator has no text
      have hl := ihl fun t ht => hplain t (by simp [ht])
      have hr := ihr fun t ht => hplain t (by simp [ht])
      rw [Document.satisfies, hl, hr, List.filterMap_append, List.map_append, List.all_append]
      rfl
  | adjacent _ _ _ ihl ihr =>
      have hl := ihl fun t ht => hplain t (by simp [ht])
      have hr := ihr fun t ht => hplain t (by simp [ht])
      rw [Document.satisfies, hl, hr, List.filterMap_append, List.map_append, List.all_append]
  | conjunction _ ih => exact ih hplain
  | or _ _ _ _ => simpa using hplain .or (by simp)

/-- Any words can be joined by `AND`. -/
theorem exists_joinsWords (ws : List String) : ∃ e, JoinsWords ws e := by
  cases ws with
  | nil => exact ⟨.matchAll, .nothing⟩
  | cons word more => exact ⟨_, (JoinsWords.first word).append (List.cons_ne_nil _ _) more⟩

/-- Where adjacency joins operands, words side by side are a sentence, and their tree is the words
joined by `AND`. They open nothing. -/
theorem JoinsWords.derives (h : JoinsWords ws e) (hne : ws ≠ []) :
    Derives true .conjunction (ws.map Token.term) e ∧ nestingOf (ws.map Token.term) = 0 := by
  induction h with
  | nothing => exact absurd rfl hne
  | first word => exact ⟨.negation (.primary (.term word)), rfl⟩
  | @next words e word _ hwords ih =>
      obtain ⟨hleft, hflat⟩ := ih hwords
      have hright : Derives true .negation [Token.term word] (.term word) := .primary (.term word)
      rw [List.map_append]
      refine ⟨.adjacent rfl hleft hright, ?_⟩
      show nestingOf (words.map Token.term ++ [Token.term word]) = 0
      rw [hleft.nestingOf_adjacent hright, hflat]
      rfl

end

section
variable {query : String} {options : ParseOptions}

theorem IsPlain.tokensOf_eq (h : IsPlain query) :
    tokensOf query.toList = (words query).map Token.ofWord ++ [.endOfQuery] := by
  have htokens := tokensOf_eq_words h.noMark
  rwa [String.ofList_toList] at htokens

theorem IsPlain.endOfQuery_notMem (h : IsPlain query) :
    Token.endOfQuery ∉ (words query).map Token.ofWord := by
  intro hend
  rcases h.token_cases _ hend with hand | ⟨text, hterm⟩
  · cases hand
  · cases hterm

/-- A plain query that is accepted holds of the documents that contain the words of the word
search. -/
theorem IsPlain.satisfies_of_parse (h : IsPlain query) {e : Expr}
    (hparse : parse query options = .ok e) (d : Document) :
    d.satisfies e = (wordTerms query).all d.contains := by
  rw [wordTerms_eq_texts h.noMark]
  rcases (parse_eq_ok_iff h.tokensOf_eq h.endOfQuery_notMem).mp hparse with ⟨hnone, rfl⟩ | ⟨hder, -⟩
  · rw [hnone]
    rfl
  · exact satisfies_of_plain_sentence hder h.token_cases d

/-- Words side by side are accepted where adjacency joins them, and are read as joined by `AND`. -/
theorem IsPlain.exists_parse (h : IsPlain query) (himp : options.implicitAnd = true)
    (hand : ∀ word ∈ words query, ¬ Token.and.IsSpelling word.toList) :
    ∃ e, parse query options = .ok e ∧ JoinsWords (words query) e := by
  have hterms : (words query).map Token.ofWord = (words query).map Token.term := by
    refine List.map_congr_left fun word hword => ?_
    rcases h.token_cases _ (List.mem_map_of_mem hword) with hop | ⟨text, hterm⟩
    · exact absurd (isSpelling_of_ofWord hop rfl) (hand word hword)
    · -- the text of the token is the word
      rcases Token.ofWord_cases word with hop | hop | hop | hop <;> rw [hop] at hterm ⊢ <;>
        cases hterm
  have hmeans : ∀ e, parse query options = .ok e ↔
      Means options.implicitAnd ((words query).map Token.ofWord) e := by
    intro e
    exact parse_eq_ok_iff h.tokensOf_eq h.endOfQuery_notMem
  by_cases hnone : words query = []
  · refine ⟨.matchAll, (hmeans _).mpr (.inl ⟨?_, rfl⟩), ?_⟩
    · rw [hnone]
      rfl
    · rw [hnone]
      exact .nothing
  · obtain ⟨e, he⟩ := exists_joinsWords (words query)
    obtain ⟨hder, hflat⟩ := he.derives hnone
    refine ⟨e, (hmeans e).mpr ?_, he⟩
    rw [hterms, himp]
    exact .inr ⟨.conjunction hder, nestsWithin_iff.mpr (by rw [hflat]; exact Nat.zero_le _)⟩

/-- **Both searches answer a plain query alike.** Whichever of them is taken, it finds what the word
search finds. Where adjacency joins operands and no word is `AND`, it is the query itself that is
answered, read as its words joined by `AND`. -/
theorem searchOrWords_of_isPlain (l : Ledger) (options : ParseOptions) (h : IsPlain query) :
    (searchOrWords l query options).transactions = wordSearch l query ∧
      (options.implicitAnd = true →
        (∀ word ∈ words query, ¬ Token.and.IsSpelling word.toList) →
        (∃ e, parse query options = .ok e ∧ JoinsWords (words query) e) ∧
          (searchOrWords l query options).isFallback = false) := by
  constructor
  · rw [wordSearch_eq_filter]
    cases hparse : parse query options with
    | error err => rw [searchOrWords_of_error l hparse]
    | ok e =>
        rw [searchOrWords_of_parse l hparse]
        exact List.filter_congr fun t _ => h.satisfies_of_parse hparse (project l t)
  · intro himp hand
    obtain ⟨e, hparse, he⟩ := h.exists_parse himp hand
    refine ⟨⟨e, hparse, he⟩, ?_⟩
    rw [searchOrWords_of_parse l hparse]
    rfl

/-- The second of the four transactions is the only one with both words, in whatever letters they
are written. -/
theorem searchOrWords_of_isPlain_tangledLedger :
    let query := "fast\u00a0FOOD "
    IsPlain query ∧ (∀ word ∈ words query, ¬ Token.and.IsSpelling word.toList) ∧
      (searchOrWords tangledLedger query {}).isFallback = false ∧
      ((searchOrWords tangledLedger query {}).transactions.map (·.id)) = [2] := by
  intro query
  have hplain : IsPlain query := by decide
  have hand : ∀ word ∈ words query, ¬ Token.and.IsSpelling word.toList := by decide
  obtain ⟨heq, hparse⟩ := searchOrWords_of_isPlain tangledLedger {} hplain
  refine ⟨hplain, hand, (hparse rfl hand).2, ?_⟩
  rw [heq]
  decide

end

end LedgerSearch.Search
