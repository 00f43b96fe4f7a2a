import LedgerSearch.Proofs.Query.Parser
import Mathlib.Algebra.Group.Even
import Mathlib.Algebra.Group.Nat.Even

/-!
# `LedgerSearch.Proofs.Query.Subquery`: a query as a part of another one

Put in parentheses, a query should be an operand like any other. Three things stand in the way. A
quote that is never closed swallows the closing parenthesis, and whatever comes behind it. A query
without a token is accepted alone but not in parentheses. And the parentheses add to the nesting.
`IsSubquery` rules all three out.

Then the tokens of the query stand unchanged in the longer one (`tokensOf_append`), they are still a
sentence there, and the operators build the tree one expects: `parse_and_of_subquery`,
`parse_or_of_subquery` and `parse_not_of_subquery`.
-/

set_option autoImplicit false

namespace LedgerSearch.Query

open LedgerSearch.Text

/-! ### Queries that may stand in parentheses -/

/-- The query asks for something, closes its phrases and leaves room for a parenthesis and a
negation around it. -/
structure IsSubquery (options : ParseOptions) (query : String) (e : Expr) : Prop where
  parse_eq : parse query options = .ok e
  ne_matchAll : e ≠ .matchAll
  quotes : Even (query.toList.count '"')
  nesting : NestsWithin 254 (tokensOf query.toList)

section
variable {options : ParseOptions} {query query₁ query₂ : String} {e e₁ e₂ : Expr}

/-- In parentheses the query is a primary, whatever stands behind it. -/
theorem IsSubquery.group (h : IsSubquery options query e) :
    ∃ ts, Derives options.implicitAnd .primary ts e ∧ nestingOf ts ≤ 255 ∧
      ∀ rest, tokensOf ('(' :: (query.toList ++ ')' :: rest)) = ts ++ tokensOf rest := by
  obtain ⟨ts, hts, hend⟩ := tokensOf_eq_append query.toList
  have hder : Derives options.implicitAnd .disjunction ts e := by
    rcases (parse_eq_ok_iff hts hend).mp h.parse_eq with ⟨-, hall⟩ | ⟨hder, -⟩
    · exact absurd hall h.ne_matchAll
    · exact hder
  -- the end of the query opens nothing, so the bound holds of the tokens in front of it
  have hnest : nestingOf ts ≤ 254 := nestsWithin_iff.mp fun before hbefore =>
    h.nesting before (hts ▸ hbefore.trans (List.prefix_append ts _))
  refine ⟨_, .group hder, ?_, fun rest => ?_⟩
  · rw [hder.nestingOf_group]
    omega
  · rw [tokensOf_openParen, tokensOf_append h.quotes (by rintro c ⟨⟩; decide), hts,
      List.dropLast_concat, tokensOf_closeParen]
    simp

/-- A row of tokens that is a sentence within the limit is accepted with its tree. -/
theorem parse_of_tokensOf {ts : List Token} (hts : tokensOf query.toList = ts ++ tokensOf [])
    (hder : Derives options.implicitAnd .disjunction ts e) (hn : nestingOf ts ≤ maxNesting) :
    parse query options = .ok e :=
  (parse_eq_ok_iff (tokensOf_nil ▸ hts) hder.endOfQuery_notMem).mpr
    (.inr ⟨hder, nestsWithin_iff.mpr hn⟩)

/-- An operator between two subqueries is one token. -/
theorem tokensOf_between {ts us : List Token} {word : List Char} {t : Token}
    (h₁ : ∀ rest, tokensOf ('(' :: (query₁.toList ++ ')' :: rest)) = ts ++ tokensOf rest)
    (h₂ : ∀ rest, tokensOf ('(' :: (query₂.toList ++ ')' :: rest)) = us ++ tokensOf rest)
    (hne : word ≠ []) (hword : word.all isWordChar = true)
    (ht : Token.ofWord (String.ofList word) = t) :
    tokensOf ('(' :: (query₁.toList ++ ')' :: ' ' :: (word ++ ' ' ::
        '(' :: (query₂.toList ++ [')']))))
      = ts ++ t :: us ++ tokensOf [] := by
  rw [h₁, tokensOf_blank (by decide),
    tokensOf_word hne (List.all_eq_true.mp hword) (by rintro c ⟨⟩; decide), ht,
    tokensOf_blank (by decide), h₂]
  simp

theorem parse_and_of_subquery (h₁ : IsSubquery options query₁ e₁)
    (h₂ : IsSubquery options query₂ e₂) :
    parse ("(" ++ query₁ ++ ") AND (" ++ query₂ ++ ")") options = .ok (.and e₁ e₂) := by
  obtain ⟨ts, hts, hnts, htokens₁⟩ := h₁.group
  obtain ⟨us, hus, hnus, htokens₂⟩ := h₂.group
  have hchars : ("(" ++ query₁ ++ ") AND (" ++ query₂ ++ ")").toList
      = '(' :: (query₁.toList ++ ')' :: ' ' :: ("AND".toList ++ ' ' ::
        '(' :: (query₂.toList ++ [')']))) := by
    simp
  have hl := hts.primary.negation
  have hr := hus.primary
  refine parse_of_tokensOf (hchars ▸ tokensOf_between htokens₁ htokens₂ (t := .and) (by decide) rfl
    (by decide)) (.conjunction (.and hl hr)) ?_
  rw [hl.nestingOf_and hr, maxNesting]
  omega

theorem parse_or_of_subquery (h₁ : IsSubquery options query₁ e₁)
    (h₂ : IsSubquery options query₂ e₂) :
    parse ("(" ++ query₁ ++ ") OR (" ++ query₂ ++ ")") options = .ok (.or e₁ e₂) := by
  obtain ⟨ts, hts, hnts, htokens₁⟩ := h₁.group
  obtain ⟨us, hus, hnus, htokens₂⟩ := h₂.group
  have hchars : ("(" ++ query₁ ++ ") OR (" ++ query₂ ++ ")").toList
      = '(' :: (query₁.toList ++ ')' :: ' ' :: ("OR".toList ++ ' ' ::
        '(' :: (query₂.toList ++ [')']))) := by
    simp
  have hl := hts.primary.negation.conjunction
  have hr := hus.primary.negation
  refine parse_of_tokensOf (hchars ▸ tokensOf_between htokens₁ htokens₂ (t := .or) (by decide) rfl
    (by decide)) (.or hl hr) ?_
  rw [hl.nestingOf_or hr, maxNesting]
  omega

theorem parse_not_of_subquery (h : IsSubquery options query e) :
    parse ("NOT (" ++ query ++ ")") options = .ok (.not e) := by
  obtain ⟨ts, hts, hnts, htokens⟩ := h.group
  have hchars : ("NOT (" ++ query ++ ")").toList
      = "NOT".toList ++ ' ' :: '(' :: (query.toList ++ [')']) := by
    simp
  have htokens' : tokensOf ("NOT (" ++ query ++ ")").toList = .not :: ts ++ tokensOf [] := by
    rw [hchars, tokensOf_word (by decide) (List.all_eq_true.mp rfl) (by rintro c ⟨⟩; decide),
      tokensOf_blank (by decide), htokens]
    rfl
  have hinner := hts.primary
  refine parse_of_tokensOf htokens' (.conjunction (.negation (.not hinner))) ?_
  rw [hinner.nestingOf_not, maxNesting]
  omega

end

end LedgerSearch.Query
