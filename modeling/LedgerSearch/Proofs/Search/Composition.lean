import LedgerSearch.Proofs.Query.Subquery
import LedgerSearch.Proofs.Search.Satisfaction

/-!
# `LedgerSearch.Proofs.Search.Composition`: searches put together

Queries in parentheses are joined by `AND` and `OR` and preceded by `NOT`. What such a query finds
should follow from what its parts find, without another look at the transactions: what both find,
what either finds, what the part does not find.

`search_composition` states that for every two queries that may stand in parentheses
(`IsSubquery`). The parser gives the expected tree, and for each operator there is one lemma on the
transactions that satisfy it.

A result is compared by its members. That is enough: equal transactions are answered alike, so a
result is the part of the ledger that consists of its members, in ledger order and as often as the
ledger has them.
-/

set_option autoImplicit false

namespace LedgerSearch.Search

open LedgerSearch.Ledger
open LedgerSearch.Query (Derives Expr IsSubquery ParseOptions Token tokensOf)

/-- The transactions whose document satisfies the expression. -/
def satisfying (l : Ledger) (e : Expr) : List Transaction :=
  l.transactions.filter fun t => (project l t).satisfies e

section
variable {l : Ledger} {t : Transaction} {e left right : Expr}

theorem mem_satisfying_iff (ht : t ∈ l.transactions) :
    t ∈ satisfying l e ↔ (project l t).satisfies e = true := by
  simp [satisfying, ht]

/-- What says the same as an expression selects the same transactions. -/
theorem satisfying_eq_filter {p : Transaction → Prop} [DecidablePred p]
    (h : ∀ t ∈ l.transactions, (project l t).satisfies e = true ↔ p t) :
    satisfying l e = l.transactions.filter p :=
  List.filter_congr fun t ht => Bool.eq_iff_iff.mpr ((h t ht).trans decide_eq_true_iff.symm)

/-- The members of a result say which part of the ledger it is. -/
theorem satisfying_eq_filter_mem : satisfying l e = l.transactions.filter (· ∈ satisfying l e) :=
  satisfying_eq_filter fun _ ht => (mem_satisfying_iff ht).symm

theorem satisfying_and :
    satisfying l (.and left right)
      = l.transactions.filter fun t => t ∈ satisfying l left ∧ t ∈ satisfying l right :=
  satisfying_eq_filter fun t ht => by
    rw [Document.satisfies, Bool.and_eq_true, mem_satisfying_iff ht, mem_satisfying_iff ht]

theorem satisfying_or :
    satisfying l (.or left right)
      = l.transactions.filter fun t => t ∈ satisfying l left ∨ t ∈ satisfying l right :=
  satisfying_eq_filter fun t ht => by
    rw [Document.satisfies, Bool.or_eq_true, mem_satisfying_iff ht, mem_satisfying_iff ht]

theorem satisfying_not :
    satisfying l (.not e) = l.transactions.filter fun t => t ∉ satisfying l e :=
  satisfying_eq_filter fun t ht => by
    rw [Document.satisfies, Bool.not_eq_true', mem_satisfying_iff ht, Bool.not_eq_true]

end

/-- **A search composes as its query does.** Two queries that may stand in parentheses are answered,
each with a part of the ledger. Joined by `AND` they find the transactions that both find, joined by
`OR` those that at least one finds, and behind `NOT` the first finds those that it did not find. -/
theorem search_composition (l : Ledger) {query₁ query₂ : String} {options : ParseOptions}
    {e₁ e₂ : Expr} (h₁ : IsSubquery options query₁ e₁) (h₂ : IsSubquery options query₂ e₂) :
    ∃ r₁ r₂, search l query₁ options = .ok r₁ ∧ search l query₂ options = .ok r₂ ∧
      r₁ = l.transactions.filter (· ∈ r₁) ∧ r₂ = l.transactions.filter (· ∈ r₂) ∧
      search l ("(" ++ query₁ ++ ") AND (" ++ query₂ ++ ")") options
        = .ok (l.transactions.filter fun t => t ∈ r₁ ∧ t ∈ r₂) ∧
      search l ("(" ++ query₁ ++ ") OR (" ++ query₂ ++ ")") options
        = .ok (l.transactions.filter fun t => t ∈ r₁ ∨ t ∈ r₂) ∧
      search l ("NOT (" ++ query₁ ++ ")") options
        = .ok (l.transactions.filter fun t => t ∉ r₁) := by
  refine ⟨satisfying l e₁, satisfying l e₂, search_of_parse h₁.parse_eq,
    search_of_parse h₂.parse_eq, satisfying_eq_filter_mem, satisfying_eq_filter_mem, ?_, ?_, ?_⟩
  · rw [← satisfying_and]
    exact search_of_parse (Query.parse_and_of_subquery h₁ h₂)
  · rw [← satisfying_or]
    exact search_of_parse (Query.parse_or_of_subquery h₁ h₂)
  · rw [← satisfying_not]
    exact search_of_parse (Query.parse_not_of_subquery h₁)

/-- Of the four transactions of the ledger the query `shop OR fast` finds three, and the query
`NOT "treat"` does not find one of these. -/
theorem search_composition_tangledLedger :
    let query₁ := "shop OR fast"
    let query₂ := "NOT \"treat\""
    let ids := fun query => (search tangledLedger query {}).toOption.map (·.map (·.id))
    IsSubquery {} query₁ (.or (.term "shop") (.term "fast")) ∧
      IsSubquery {} query₂ (.not (.term "treat")) ∧
      ids query₁ = some [1, 2, 1] ∧ ids query₂ = some [1, 3, 1] ∧
      ids ("(" ++ query₁ ++ ") AND (" ++ query₂ ++ ")") = some [1, 1] ∧
      ids ("(" ++ query₁ ++ ") OR (" ++ query₂ ++ ")") = some [1, 2, 3, 1] ∧
      ids ("NOT (" ++ query₁ ++ ")") = some [3] := by
  intro query₁ query₂ ids
  have htokens₁ : tokensOf query₁.toList
      = [Token.term "shop"] ++ Token.or :: [.term "fast"] ++ tokensOf [] := by decide +kernel
  have htokens₂ : tokensOf query₂.toList = Token.not :: [.phrase "treat"] ++ tokensOf [] := by
    decide +kernel
  have hshop : Derives true .negation [.term "shop"] (.term "shop") := .primary (.term "shop")
  have hfast : Derives true .negation [.term "fast"] (.term "fast") := .primary (.term "fast")
  have htreat : Derives true .negation [.phrase "treat"] (.term "treat") :=
    .primary (.phrase "treat")
  have hor₁ := Derives.or hshop.negation.conjunction hfast.negation
  have hnot₂ := (Derives.not htreat).negation.conjunction
  have h₁ : IsSubquery {} query₁ (.or (.term "shop") (.term "fast")) :=
    ⟨Query.parse_of_tokensOf htokens₁ hor₁ (by decide), Expr.noConfusion, by decide,
      Query.nestsWithin_iff.mpr (by decide +kernel)⟩
  have h₂ : IsSubquery {} query₂ (.not (.term "treat")) :=
    ⟨Query.parse_of_tokensOf htokens₂ hnot₂ (by decide), Expr.noConfusion, by decide,
      Query.nestsWithin_iff.mpr (by decide +kernel)⟩
  obtain ⟨r₁, r₂, hr₁, hr₂, -, -, hand, hor, hnot⟩ := search_composition tangledLedger h₁ h₂
  obtain rfl : r₁ = satisfying tangledLedger (.or (.term "shop") (.term "fast")) :=
    Except.ok.inj (hr₁.symm.trans (search_of_parse h₁.parse_eq))
  obtain rfl : r₂ = satisfying tangledLedger (.not (.term "treat")) :=
    Except.ok.inj (hr₂.symm.trans (search_of_parse h₂.parse_eq))
  refine ⟨h₁, h₂, ?_⟩
  simp only [ids, hr₁, hr₂, hand, hor, hnot]
  decide

end LedgerSearch.Search
