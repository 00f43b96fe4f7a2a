import LedgerSearch.Proofs.Query.LetterCase
import LedgerSearch.Proofs.Search.Explanation

/-!
# `LedgerSearch.Proofs.Search.LetterCase`: the case of ASCII letters makes no difference to a search

Whoever types a query need not care for its capitals. Queries written in the same letters give the
same transactions, or they are rejected at the same place, and the word search that then answers
finds the same as well (`search_sameLetters`). It does not matter where the letters stand: in a
keyword, a word or a phrase.

Two runs are compared, stage by stage. The parser returns trees that differ in the case of letters
only (`parse_sameLetters`). No document can tell such trees apart, since it compares lower-case
forms (`satisfies_sameLetters`). The word search forms its words in its own way, and there each step
commutes with making letters small (`wordTerms_smallLetters`).
-/

set_option autoImplicit false

namespace LedgerSearch.Search

open LedgerSearch.Query
open LedgerSearch.Text

/-! ### Documents -/

/-- No document tells expressions in the same letters apart. -/
theorem satisfies_sameLetters {e e' : Expr} (h : e.Alike SameLetters e') (d : Document) :
    d.satisfies e = d.satisfies e' := by
  induction h with
  | matchAll => rfl
  | term h => rw [Document.satisfies, Document.satisfies, fold_eq_lower, fold_eq_lower, h.lower_eq]
  | and _ _ ihl ihr => rw [Document.satisfies, Document.satisfies, ihl, ihr]
  | or _ _ ihl ihr => rw [Document.satisfies, Document.satisfies, ihl, ihr]
  | not _ ih => rw [Document.satisfies, Document.satisfies, ih]

/-! ### Words -/

theorem isQueryMark_toLower (c : Char) : isQueryMark c.toLower = isQueryMark c := by
  rw [isQueryMark, isQueryMark, toLower_beq (by decide), toLower_beq (by decide),
    toLower_beq (by decide)]

/-- To take out punctuation and to make letters small are independent of each other. -/
theorem filter_isQueryMark_smallLetters (word : String) :
    String.ofList ((smallLetters word).toList.filter fun c => !isQueryMark c)
      = smallLetters (String.ofList (word.toList.filter fun c => !isQueryMark c)) := by
  have hkeep : (fun c => !isQueryMark c) ∘ Char.toLower = fun c => !isQueryMark c :=
    funext fun c => congrArg (! ·) (isQueryMark_toLower c)
  rw [smallLetters, smallLetters, String.toList_ofList, String.toList_ofList, List.filter_map,
    hkeep]

theorem isKeyword_smallLetters (word : String) :
    Token.isKeyword (smallLetters word) = Token.isKeyword word := by
  rw [Token.isKeyword, Token.isKeyword, Token.keyword?_smallLetters]

theorem isEmpty_smallLetters (word : String) : (smallLetters word).isEmpty = word.isEmpty := by
  rw [Bool.eq_iff_iff, String.isEmpty_iff, String.isEmpty_iff, smallLetters,
    String.ofList_eq_empty_iff, List.map_eq_nil_iff, String.toList_eq_nil_iff]

/-- The word search looks for the same words in a query with small letters. -/
theorem wordTerms_smallLetters (query : String) :
    wordTerms (smallLetters query) = wordTerms query := by
  have hstripped : ((words query).map smallLetters).map
        (fun word => String.ofList (word.toList.filter fun c => !isQueryMark c))
      = ((words query).map fun word =>
          String.ofList (word.toList.filter fun c => !isQueryMark c)).map smallLetters := by
    rw [List.map_map, List.map_map]
    exact List.map_congr_left fun word _ => filter_isQueryMark_smallLetters word
  rw [wordTerms, words_smallLetters, hstripped, List.filter_map, List.map_map]
  simp only [Function.comp_def, lower_smallLetters, isKeyword_smallLetters, isEmpty_smallLetters]
  rfl

/-! ### Searches -/

section
variable {query query' : String}

theorem wordSearch_sameLetters (l : Ledger) (h : SameLetters query query') :
    wordSearch l query = wordSearch l query' := by
  have hterms : wordTerms query = wordTerms query' := by
    rw [← wordTerms_smallLetters query, ← wordTerms_smallLetters query', sameLetters_iff.mp h]
  rw [wordSearch_eq_filter, wordSearch_eq_filter, hterms]

/-- **The case of ASCII letters makes no difference to a search.** On two queries in the same
letters the search gives the same transactions, or it fails on both, at the same token and at the
same position. The word search, and the search that falls back on it, give the same transactions in
any case. -/
theorem search_sameLetters (l : Ledger) (options : ParseOptions) (h : SameLetters query query') :
    ((∃ found, search l query options = .ok found ∧ search l query' options = .ok found) ∨
      ∃ err err', search l query options = .error err ∧ search l query' options = .error err' ∧
        err.tokenIndex = err'.tokenIndex ∧ err.position = err'.position) ∧
    wordSearch l query = wordSearch l query' ∧
    (searchOrWords l query options).transactions
      = (searchOrWords l query' options).transactions := by
  have hwords := wordSearch_sameLetters l h
  rcases parse_sameLetters h options with
    ⟨e, e', hparse, hparse', halike⟩ | ⟨err, err', hparse, hparse', hindex, hposition⟩
  · have hfound : (l.transactions.filter fun t => (project l t).satisfies e)
        = l.transactions.filter fun t => (project l t).satisfies e' :=
      List.filter_congr fun t _ => satisfies_sameLetters halike (project l t)
    refine ⟨.inl ⟨_, search_of_parse hparse, ?_⟩, hwords, ?_⟩
    · rw [search_of_parse hparse', hfound]
    · rw [searchOrWords_of_parse l hparse, searchOrWords_of_parse l hparse', hfound]
  · have herror : search l query options = .error err := by rw [search, hparse]
    have herror' : search l query' options = .error err' := by rw [search, hparse']
    refine ⟨.inr ⟨err, err', herror, herror', hindex, hposition⟩, hwords, ?_⟩
    rw [searchOrWords, searchOrWords, herror, herror']
    exact hwords

/-- The query `("FOOD" AND NOT ("treat" OR "shadow"))` in other letters. -/
theorem search_sameLetters_tangledLedger :
    let e := Expr.and (.term "FOOD") (.not (.or (.term "treat") (.term "shadow")))
    let query := "(\"food\" and nOT (\"TREAT\" Or \"shadoW\"))"
    SameLetters e.canonical query ∧
      ∃ found, search tangledLedger query {} = .ok found ∧ found.map (·.id) = [1, 3, 1] := by
  intro e query
  have hsame : SameLetters e.canonical query := by
    unfold SameLetters
    decide
  have hwritable : e.Writable := by
    simp only [e, Expr.writable_and_iff, Expr.writable_not_iff, Expr.writable_or_iff,
      Expr.writable_term_iff]
    decide
  have hparse : parse e.canonical {} = .ok e :=
    (parse_canonical_iff_of_writable hwritable {}).mpr (by decide)
  have hsearch := search_of_parse (l := tangledLedger) hparse
  rcases (search_sameLetters tangledLedger {} hsame).1 with
    ⟨found, hfound, hfound'⟩ | ⟨err, -, herror, -⟩
  · rw [hsearch] at hfound
    cases hfound
    exact ⟨hsame, _, hfound', by decide⟩
  -- the canonical form is accepted, so there is no error
  · rw [hsearch] at herror
    cases herror

end

end LedgerSearch.Search
