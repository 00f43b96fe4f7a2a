import LedgerSearch.Proofs.Query.Tiling
import LedgerSearch.Proofs.Search.LetterCase
import LedgerSearch.Proofs.Text.LowerForm

/-!
# `LedgerSearch.Proofs.Search.WordTerms`: the terms of the word search

The word search makes its terms in four steps: it cuts the query at its blanks, takes punctuation
out of the words, drops what is then empty or an operator, and puts the rest into lower case. Each
step could spoil what an earlier one has done. To take punctuation out of `(and)` makes an operator
of it, which is why operators are dropped afterwards. Lower-casing comes last and might bring about
a blank, punctuation or an operator once more. It does not (`LedgerSearch.Proofs.Text.LowerForm`).

So a term has all that the steps are there for (`IsWordTerm`), and none of them changes it any
further (`IsWordTerm.wordTerm?_eq`). `wordTerms_laws` says what follows for queries. To join the
terms of a query by blanks gives a query with the same terms. And a query behind another one adds
its terms to those of the other, so that the two together find what both of them find.
-/

set_option autoImplicit false

namespace LedgerSearch.Search

open LedgerSearch.Ledger
open LedgerSearch.Query
open LedgerSearch.Text

/-! ### From a word to a term -/

/-- The word without the punctuation of the query language. -/
def withoutMarks (word : String) : String :=
  String.ofList (word.toList.filter fun c => !isQueryMark c)

/-- The term that the word search makes of a word, if it makes one. -/
def wordTerm? (word : String) : Option String :=
  if (withoutMarks word).isEmpty || Token.isKeyword (withoutMarks word) then none
  else some (lower (withoutMarks word))

/-- The word search makes its terms of the words one by one. -/
theorem wordTerms_eq_filterMap (query : String) :
    wordTerms query = (words query).filterMap wordTerm? := by
  -- to take out, to drop and to lower-case as one partial function
  rw [wordTerms, ← List.filterMap_eq_filter, List.map_filterMap, List.filterMap_map]
  refine List.filterMap_congr fun word _ => ?_
  show (Option.guard _ (withoutMarks word)).map lower = _
  rw [Option.guard, wordTerm?, ← Bool.not_or]
  cases (withoutMarks word).isEmpty || Token.isKeyword (withoutMarks word) <;> rfl

theorem wordTerm?_eq_some_iff {word term : String} :
    wordTerm? word = some term ↔
      withoutMarks word ≠ "" ∧ Token.isKeyword (withoutMarks word) = false ∧
        lower (withoutMarks word) = term := by
  rw [wordTerm?, Option.ite_none_left_eq_some, Option.some_inj, Bool.or_eq_true, not_or, and_assoc,
    String.isEmpty_iff, Bool.not_eq_true]

/-! ### Terms -/

/-- The text is what the terms of the word search are to be: a word in lower case, without
punctuation, that spells no operator. -/
structure IsWordTerm (term : String) : Prop where
  ne_empty : term ≠ ""
  noBlank : ∀ c ∈ term.toList, isBlank c = false
  noMark : ∀ c ∈ term.toList, c ≠ '"' ∧ c ≠ '(' ∧ c ≠ ')'
  noKeyword : Token.isKeyword term = false
  lower_eq : lower term = term

/-- Punctuation and blanks are characters that the grammar knows. -/
theorem grammarRanges_has {c : Char} (h : isBlank c = true ∨ isQueryMark c = true) :
    grammarRanges.has c = true := by
  rw [grammarRanges, CodeRanges.has, List.any_append, Bool.or_eq_true]
  refine h.imp id fun hmark => ?_
  simp only [isQueryMark, Bool.or_eq_true, beq_iff_eq] at hmark
  rcases hmark with (rfl | rfl) | rfl <;> decide

/-- Lower-casing brings about no blank and no punctuation. -/
theorem clean_lower {s : String}
    (h : ∀ c ∈ s.toList, isBlank c = false ∧ isQueryMark c = false) :
    ∀ d ∈ (lower s).toList, isBlank d = false ∧ isQueryMark d = false := by
  intro d hd
  rw [lower, String.toList_ofList] at hd
  rw [← Bool.or_eq_false_iff, ← Bool.not_eq_true, Bool.or_eq_true]
  intro hknown
  obtain ⟨c, hc, rfl⟩ := exists_of_mem_lowerAfter hd (grammarRanges_has hknown)
  rw [isBlank_toLower, isQueryMark_toLower, (h c hc).1, (h c hc).2] at hknown
  simp at hknown

/-- The letters of the operators are characters that the grammar knows. -/
theorem grammarRanges_has_of_isKeyword {word : String} (h : Token.isKeyword word = true) :
    ∀ c ∈ word.toList, grammarRanges.has c = true := by
  obtain ⟨t, ht⟩ := Option.isSome_iff_exists.mp h
  rw [← String.ofList_toList (s := word), Token.keyword?_eq_some_iff] at ht
  obtain ⟨capitals, ht, hcase⟩ := ht
  have hletters :
      (capitals.all fun k => grammarRanges.has k && grammarRanges.has k.toLower) = true := by
    cases t <;> cases ht <;> decide
  have hupper := Token.isUpper_of_mem_capitals ht
  intro c hc
  have hmem : c.toUpper ∈ capitals := by
    rw [← (isCaseVariant_iff hupper).mp hcase]
    exact List.mem_map_of_mem hc
  have hboth := List.all_eq_true.mp hletters _ hmem
  rw [Bool.and_eq_true] at hboth
  -- the letter is its capital or the small letter of it
  rcases (toUpper_eq_iff (hupper _ hmem)).mp rfl with hc | hc <;> rw [hc]
  · exact hboth.1
  · exact hboth.2

/-- Lower-casing makes no operator of a word that is none. -/
theorem isKeyword_of_lower {word : String} (h : Token.isKeyword (lower word) = true) :
    Token.isKeyword word = true := by
  -- a form that spells an operator has the letters of operators only, and so is no other than the
  -- word in small letters
  have hknown : ∀ d ∈ lowerAfter false word.toList, grammarRanges.has d = true := by
    have hall := grammarRanges_has_of_isKeyword h
    rwa [lower, String.toList_ofList] at hall
  have hsmall : lower word = smallLetters word := by
    rw [lower, smallLetters, lowerAfter_eq_map_toLower hknown]
  rwa [hsmall, isKeyword_smallLetters] at h

/-- What the word search makes of a word of the query is a term. -/
theorem isWordTerm_of_wordTerm? {word term : String} (hword : ∀ c ∈ word.toList, isBlank c = false)
    (h : wordTerm? word = some term) : IsWordTerm term := by
  obtain ⟨hne, hkey, rfl⟩ := wordTerm?_eq_some_iff.mp h
  have hclean := clean_lower (s := withoutMarks word) (by
    intro c hc
    rw [withoutMarks, String.toList_ofList, List.mem_filter] at hc
    exact ⟨hword c hc.1, by simpa using hc.2⟩)
  refine ⟨fun hempty => hne (lower_eq_empty_iff.mp hempty), fun c hc => (hclean c hc).1, ?_, ?_,
    lower_lower _⟩
  · intro c hc
    simpa [isQueryMark, not_or, and_assoc] using (hclean c hc).2
  · rw [← Bool.not_eq_true]
    intro hlower
    rw [isKeyword_of_lower hlower] at hkey
    cases hkey

theorem isWordTerm_of_mem {query term : String} (h : term ∈ wordTerms query) : IsWordTerm term := by
  rw [wordTerms_eq_filterMap] at h
  obtain ⟨word, hword, hterm⟩ := List.mem_filterMap.mp h
  exact isWordTerm_of_wordTerm? (fun c hc => ((of_mem_words hword).2 c hc).2) hterm

/-- No step changes a term. -/
theorem IsWordTerm.wordTerm?_eq {term : String} (h : IsWordTerm term) :
    wordTerm? term = some term := by
  have hkeep : ∀ c ∈ term.toList, (!isQueryMark c) = true := by
    intro c hc
    simp [isQueryMark, h.noMark c hc]
  have hmarks : withoutMarks term = term := by
    rw [withoutMarks, List.filter_eq_self.mpr hkeep, String.ofList_toList]
  rw [wordTerm?_eq_some_iff, hmarks]
  exact ⟨h.ne_empty, h.noKeyword, h.lower_eq⟩

/-! ### Queries -/

/-- Terms joined by blanks are the terms of the query that they make. -/
theorem wordTerms_intercalate {terms : List String} (h : ∀ term ∈ terms, IsWordTerm term) :
    wordTerms (" ".intercalate terms) = terms := by
  rw [wordTerms_eq_filterMap,
    words_intercalate fun term hterm => ⟨(h term hterm).ne_empty, (h term hterm).noBlank⟩,
    List.filterMap_congr fun term hterm => (h term hterm).wordTerm?_eq, List.filterMap_some]

/-- Queries with blanks between them have the terms of the one and then those of the other. -/
theorem wordTerms_append (query : String) {blanks : String} (more : String) (hne : blanks ≠ "")
    (hblanks : ∀ c ∈ blanks.toList, isBlank c = true) :
    wordTerms (query ++ blanks ++ more) = wordTerms query ++ wordTerms more := by
  simp only [wordTerms_eq_filterMap]
  rw [words_append_blanks hne hblanks, List.filterMap_append]

/-- What both of two queries find is found where the terms of both occur. -/
theorem wordSearch_of_append (l : Ledger) {query more both : String}
    (h : wordTerms both = wordTerms query ++ wordTerms more) :
    wordSearch l both
      = l.transactions.filter fun t => t ∈ wordSearch l query ∧ t ∈ wordSearch l more := by
  simp only [wordSearch_eq_filter]
  refine List.filter_congr fun t ht => ?_
  rw [h, List.all_append, Bool.eq_iff_iff, Bool.and_eq_true, decide_eq_true_iff, List.mem_filter,
    List.mem_filter, and_iff_right ht, and_iff_right ht]

/-- **The terms of the word search are in normal form, and queries add their terms.** With blanks
between them, two queries have the terms of the one and then those of the other, and find the
transactions that both find, in ledger order. Every term is a word in lower case without blanks or
punctuation, and no operator. Joined by blanks, the terms of a query make a query with the same
terms. -/
theorem wordTerms_laws :
    (∀ query blanks more : String, blanks ≠ "" → (∀ c ∈ blanks.toList, isBlank c = true) →
      wordTerms (query ++ blanks ++ more) = wordTerms query ++ wordTerms more ∧
        ∀ l, wordSearch l (query ++ blanks ++ more)
          = l.transactions.filter fun t => t ∈ wordSearch l query ∧ t ∈ wordSearch l more) ∧
    ∀ query, (∀ term ∈ wordTerms query, IsWordTerm term) ∧
      wordTerms (" ".intercalate (wordTerms query)) = wordTerms query := by
  constructor
  · intro query blanks more hne hblanks
    have happend := wordTerms_append query more hne hblanks
    exact ⟨happend, fun l => wordSearch_of_append l happend⟩
  · intro query
    have hterms : ∀ term ∈ wordTerms query, IsWordTerm term := fun _ => isWordTerm_of_mem
    exact ⟨hterms, wordTerms_intercalate hterms⟩

/-- The two queries have one term each, since what is left of `(and` is an operator. Of the four
transactions that the first finds, the second leaves two. -/
theorem wordTerms_laws_tangledLedger :
    let query := "\"FOOD (and"
    let blanks := "\u00a0 "
    let more := "NOT shop)"
    wordTerms query = ["food"] ∧ wordTerms more = ["shop"] ∧
      wordTerms (query ++ blanks ++ more) = ["food", "shop"] ∧
      (wordSearch tangledLedger query).map (·.id) = [1, 2, 3, 1] ∧
      (wordSearch tangledLedger (query ++ blanks ++ more)).map (·.id) = [1, 1] ∧
      wordTerms "food shop" = ["food", "shop"] := by
  intro query blanks more
  have hquery : wordTerms query = ["food"] := by decide
  have hmore : wordTerms more = ["shop"] := by decide
  obtain ⟨happend, hsearch⟩ :=
    wordTerms_laws.1 query blanks more (by decide) (List.all_eq_true.mp (by decide))
  rw [hquery, hmore, List.singleton_append] at happend
  have hnormal := (wordTerms_laws.2 (query ++ blanks ++ more)).2
  rw [happend] at hnormal
  refine ⟨hquery, hmore, happend, by decide, ?_, hnormal⟩
  rw [hsearch]
  decide

end LedgerSearch.Search
