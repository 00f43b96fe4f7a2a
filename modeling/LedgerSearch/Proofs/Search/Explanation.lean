import LedgerSearch.Proofs.Search.Satisfaction

/-!
# `LedgerSearch.Proofs.Search.Explanation`: what explains a result is what selected it

`searchOrWords` selects in one of two ways that have no code in common: it evaluates the folded
expression of the query, or it looks for the plain words of a query that is at fault. `explanation`
gives an expression for either way, and the report names the fields that the terms of this
expression occur in. It explains the result only if it holds of the transactions of the result and
of no others.

`searchOrWords_eq_filter_explanation` states that. For an accepted query it is `search_of_parse`.
For the word search the expression is a chain of `AND` (`JoinsWords`), and a document satisfies the
chain where it contains every word (`JoinsWords.satisfies_eq`). There the words are folded once
more, which changes nothing because they are in lower case already.
-/

set_option autoImplicit false

namespace LedgerSearch.Search

open LedgerSearch.Ledger
open LedgerSearch.Query (Expr ParseOptions SyntaxError parse)
open LedgerSearch.Text (lower)

/-- The expression is the words joined by `AND`, grouped to the left. Without a word it asks for
nothing. -/
inductive JoinsWords : List String → Expr → Prop
  | nothing : JoinsWords [] .matchAll
  | first (word : String) : JoinsWords [word] (.term word)
  | next {words : List String} {e : Expr} (word : String) (h : JoinsWords words e)
      (hne : words ≠ []) : JoinsWords (words ++ [word]) (.and e (.term word))

variable {words : List String} {e : Expr} {query : String} {options : ParseOptions}

/-- More words continue the chain. -/
theorem JoinsWords.append (h : JoinsWords words e) (hne : words ≠ []) (more : List String) :
    JoinsWords (words ++ more) ((more.map Expr.term).foldl .and e) := by
  induction more generalizing words e with
  | nil => rwa [List.append_nil]
  | cons word more ih =>
      -- the fold has joined `word` before it comes to the others
      have hnext := ih (.next word h hne) (by simp)
      rwa [List.append_assoc] at hnext

/-- The words of a query explain the word search. -/
theorem joinsWords_explanation (query : String) (options : ParseOptions) :
    JoinsWords (wordTerms query) (explanation query options true) := by
  rw [explanation, if_pos rfl]
  cases wordTerms query with
  | nil => exact .nothing
  | cons word more => exact (JoinsWords.first word).append (List.cons_ne_nil _ _) more

/-- An accepted query explains itself. -/
theorem explanation_of_parse (h : parse query options = .ok e) :
    explanation query options false = e := by
  simp [explanation, h]

/-- The words that the word search looks for are in lower case. -/
theorem lower_of_mem_wordTerms {word : String} (h : word ∈ wordTerms query) :
    lower word = word := by
  obtain ⟨raw, -, rfl⟩ := List.mem_map.mp h
  exact Text.lower_lower raw

/-- A document satisfies words joined by `AND` where it contains all of them. -/
theorem JoinsWords.satisfies_eq (h : JoinsWords words e)
    (hlower : ∀ word ∈ words, lower word = word) (d : Document) :
    d.satisfies e = words.all d.contains := by
  have hterm : ∀ word ∈ words, d.satisfies (.term word) = d.contains word := fun word hword => by
    rw [Document.satisfies, Text.fold_eq_lower, hlower word hword]
  induction h with
  | nothing => rfl
  | first word => rw [hterm word List.mem_cons_self, List.all_cons, List.all_nil, Bool.and_true]
  | next word h hne ih =>
      have hfront := ih (fun w hw => hlower w (List.mem_append_left _ hw))
        (fun w hw => hterm w (List.mem_append_left _ hw))
      have hlast := hterm word (List.mem_append_right _ List.mem_cons_self)
      rw [Document.satisfies, hfront, hlast, List.all_append, List.all_cons, List.all_nil,
        Bool.and_true]

/-- The word search keeps the transactions that contain every word. Without a word to look for, that
is all of them. -/
theorem wordSearch_eq_filter (l : Ledger) (query : String) :
    wordSearch l query
      = l.transactions.filter fun t => (wordTerms query).all (project l t).contains := by
  rw [wordSearch]
  split
  case isTrue hnone =>
    rw [List.isEmpty_iff.mp hnone]
    simp
  case isFalse => rfl

/-- An accepted query is answered with what its expression selects. -/
theorem searchOrWords_of_parse (l : Ledger) (h : parse query options = .ok e) :
    searchOrWords l query options
      = ⟨l.transactions.filter fun t => (project l t).satisfies e, none⟩ := by
  rw [searchOrWords, search_of_parse h]

/-- A query that is at fault is answered with what its words select. -/
theorem searchOrWords_of_error (l : Ledger) {err : SyntaxError}
    (h : parse query options = .error err) :
    searchOrWords l query options
      = ⟨l.transactions.filter fun t => (wordTerms query).all (project l t).contains,
          some err⟩ := by
  rw [searchOrWords, search, h, wordSearch_eq_filter]

/-- **The expression that explains a result selects it.** Whether the query was accepted or its
plain words were searched for, the result is the transactions whose document satisfies the
explanation, in ledger order. In the first case the explanation is the expression of the query, in
the second it is the words joined by `AND`. -/
theorem searchOrWords_eq_filter_explanation (l : Ledger) (query : String)
    (options : ParseOptions) :
    let outcome := searchOrWords l query options
    let e := explanation query options outcome.isFallback
    outcome.transactions = l.transactions.filter (fun t => (project l t).satisfies e) ∧
      (outcome.isFallback = false → parse query options = .ok e) ∧
      (outcome.isFallback = true →
        (∃ err, parse query options = .error err) ∧ JoinsWords (wordTerms query) e) := by
  cases h : parse query options with
  | ok tree =>
      rw [searchOrWords_of_parse l h]
      have he : explanation query options false = tree := explanation_of_parse h
      refine ⟨?_, fun _ => ?_, Bool.noConfusion⟩
      · show _ = l.transactions.filter fun t =>
          (project l t).satisfies (explanation query options false)
        rw [he]
      · exact congrArg Except.ok he.symm
  | error err =>
      rw [searchOrWords_of_error l h]
      have hjoins := joinsWords_explanation query options
      refine ⟨List.filter_congr fun t _ => ?_, Bool.noConfusion, fun _ => ⟨⟨err, rfl⟩, hjoins⟩⟩
      exact (hjoins.satisfies_eq (fun _ => lower_of_mem_wordTerms) (project l t)).symm

end LedgerSearch.Search
