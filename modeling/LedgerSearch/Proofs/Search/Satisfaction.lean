import LedgerSearch.Proofs.Ledger.References
import LedgerSearch.Proofs.Query.Canonical
import LedgerSearch.Proofs.Text.LowerCase
import LedgerSearch.Search.Basic

/-!
# `LedgerSearch.Proofs.Search.Satisfaction`: what a search finds

The search answers a query with the transactions that satisfy it. Here satisfaction is a relation
between a ledger, one of its transactions and an expression (`Holds`), which knows neither documents
nor folded terms: an operator has its boolean meaning, and a term holds where its letters stand in a
text that the transaction can be searched by (`IsSearchable`), whatever their case.

`search_eq_filter` states that the search gives exactly these transactions. It comes down to three
facts: a document has for fragments just the searchable texts that are not empty
(`mem_project_iff`), a term that was folded beforehand need not be folded again
(`satisfies_foldCase`), and no text is missed because it is empty, since only the empty term occurs
in it.
-/

set_option autoImplicit false

namespace LedgerSearch.Search

open LedgerSearch.Ledger
open LedgerSearch.Query (Expr ParseOptions parse)
open LedgerSearch.Text (lower)

variable {l : Ledger} {t : Transaction}

/-! ### The searchable texts -/

/-- The account that the transaction was booked on. -/
def IsAccountOf (l : Ledger) (t : Transaction) (account : BankAccount) : Prop :=
  ∃ id, t.bankAccountId = some id ∧ IsFirst (·.id = id) l.bankAccounts account

/-- The transaction can be searched by the text, which comes from the field. -/
def IsSearchable (l : Ledger) (t : Transaction) : Field → String → Prop
  | .payee, s => t.payee = some s
  | .counterparty, s => t.counterparty = some s
  | .description, s => t.description = some s
  | .category, s => ∃ id c, t.categoryId = some id ∧ l.Reaches id c ∧ c.name = s
  | .bank, s => ∃ account bank, IsAccountOf l t account ∧
      IsFirst (·.id = account.bankId) l.banks bank ∧ bank.name = s
  | .account, s => ∃ account, IsAccountOf l t account ∧ account.name = s
  | .trip, s => ∃ id trip, t.tripId = some id ∧ IsFirst (·.id = id) l.trips trip ∧ trip.name = s
  | .tag, s => ∃ id tag, id ∈ t.tagIds ∧ IsFirst (·.id = id) l.tags tag ∧ tag.name = s

theorem isAccountOf_iff {account : BankAccount} :
    IsAccountOf l t account ↔ t.bankAccountId.bind l.bankAccount? = some account := by
  simp only [IsAccountOf, Option.bind_eq_some_iff, bankAccount?_eq_some_iff]

/-- The fragments of the account and its bank are the searchable texts of these two fields. -/
theorem mem_accountFragments_iff {f : Fragment} :
    f ∈ accountFragments l t ↔
      (f.field = .bank ∨ f.field = .account) ∧ IsSearchable l t f.field f.text := by
  obtain ⟨field, s⟩ := f
  rw [accountFragments]
  cases haccount : t.bankAccountId.bind l.bankAccount? with
  | none =>
      -- no account, so neither field has a text
      simp only [List.not_mem_nil, false_iff, not_and]
      rintro (rfl | rfl)
      · rintro ⟨account, bank, haccountOf, -⟩
        exact absurd (isAccountOf_iff.mp haccountOf) (by simp [haccount])
      · rintro ⟨account, haccountOf, -⟩
        exact absurd (isAccountOf_iff.mp haccountOf) (by simp [haccount])
  | some account =>
      -- an identifier means one account only, so both fields speak of this one
      have honly : ∀ other, IsAccountOf l t other ↔ other = account := fun other => by
        rw [isAccountOf_iff, haccount, Option.some_inj, eq_comm]
      cases hbank : l.bank? account.bankId with
      | none => cases field <;> simp [IsSearchable, honly, ← bank?_eq_some_iff, hbank, eq_comm]
      | some bank => cases field <;> simp [IsSearchable, honly, ← bank?_eq_some_iff, hbank, eq_comm]

theorem mem_categoryNames_iff {s : String} :
    s ∈ t.categoryId.toList.flatMap l.categoryPath ↔ IsSearchable l t .category s := by
  simp only [IsSearchable, List.mem_flatMap, Option.mem_toList,
    mem_categoryPath_iff, exists_and_left]

theorem mem_tripNames_iff {s : String} :
    s ∈ (t.tripId.bind l.trip?).toList.map (·.name) ↔ IsSearchable l t .trip s := by
  simp only [IsSearchable, List.mem_map, Option.mem_toList,
    Option.bind_eq_some_iff, trip?_eq_some_iff]
  constructor
  · rintro ⟨trip, ⟨id, hid, hfirst⟩, hname⟩
    exact ⟨id, trip, hid, hfirst, hname⟩
  · rintro ⟨id, trip, hid, hfirst, hname⟩
    exact ⟨trip, ⟨id, hid, hfirst⟩, hname⟩

theorem mem_tagNames_iff {s : String} :
    s ∈ (t.tagIds.filterMap l.tag?).map (·.name) ↔ IsSearchable l t .tag s := by
  simp only [IsSearchable, List.mem_map, List.mem_filterMap, tag?_eq_some_iff]
  constructor
  · rintro ⟨tag, ⟨id, hid, hfirst⟩, hname⟩
    exact ⟨id, tag, hid, hfirst, hname⟩
  · rintro ⟨id, tag, hid, hfirst, hname⟩
    exact ⟨tag, ⟨id, hid, hfirst⟩, hname⟩

/-- A document has for fragments the searchable texts that are not empty. -/
theorem mem_project_iff {f : Fragment} :
    f ∈ (project l t).fragments ↔ IsSearchable l t f.field f.text ∧ f.text ≠ "" := by
  have hnames : ∀ (field field' : Field) (s : String) (texts : List String),
      Fragment.mk field s ∈ texts.map (Fragment.mk field') ↔ field = field' ∧ s ∈ texts := by
    intro field field' s texts
    simp only [List.mem_map, Fragment.mk.injEq]
    constructor
    · rintro ⟨text, htext, rfl, rfl⟩
      exact ⟨rfl, htext⟩
    · rintro ⟨rfl, hs⟩
      exact ⟨s, hs, rfl, rfl⟩
  -- the account and its bank come from one lookup, every other field from its own
  obtain ⟨field, s⟩ := f
  simp only [project, List.mem_filter, List.mem_append, hnames, mem_accountFragments_iff,
    mem_categoryNames_iff, mem_tripNames_iff, mem_tagNames_iff]
  -- of the seven groups of fragments only the one of the field is left
  cases field <;> simp [IsSearchable]

/-! ### Satisfaction -/

/-- The first text stands somewhere in the second, whatever the case of their letters. -/
def OccursIn (needle hay : String) : Prop :=
  (lower needle).toList <:+: (lower hay).toList

/-- The transaction satisfies the expression. -/
def Holds (l : Ledger) (t : Transaction) : Expr → Prop
  | .matchAll => True
  | .term text => text = "" ∨ ∃ field s, IsSearchable l t field s ∧ OccursIn text s
  | .and left right => Holds l t left ∧ Holds l t right
  | .or left right => Holds l t left ∨ Holds l t right
  | .not inner => ¬ Holds l t inner

/-- Only the empty text stands in the empty text. -/
theorem occursIn_empty_iff {needle : String} : OccursIn needle "" ↔ needle = "" := by
  have hempty : (lower "").toList = [] := rfl
  rw [OccursIn, hempty, List.infix_nil, String.toList_eq_nil_iff, Text.lower_eq_empty_iff]

/-- A document contains a folded term where the term is empty or occurs in a searchable text. That
empty texts leave no fragment makes no difference. -/
theorem project_contains_iff {text : String} :
    (project l t).contains (lower text) = true ↔
      text = "" ∨ ∃ field s, IsSearchable l t field s ∧ OccursIn text s := by
  rw [Document.contains, Bool.or_eq_true, String.isEmpty_iff, Text.lower_eq_empty_iff,
    List.any_eq_true]
  -- from here on the term is not empty
  refine or_congr_right' fun htext => ?_
  constructor
  · rintro ⟨f, hf, hcontains⟩
    exact ⟨f.field, f.text, (mem_project_iff.mp hf).1, Text.contains_iff.mp hcontains⟩
  · rintro ⟨field, s, hs, hoccurs⟩
    have hne : s ≠ "" := by
      rintro rfl
      exact htext (occursIn_empty_iff.mp hoccurs)
    exact ⟨⟨field, s⟩, mem_project_iff.mpr ⟨hs, hne⟩, Text.contains_iff.mpr hoccurs⟩

/-- A document satisfies an expression where the transaction does. -/
theorem satisfies_iff_holds {e : Expr} : (project l t).satisfies e = true ↔ Holds l t e := by
  induction e with
  | matchAll => simp [Document.satisfies, Holds]
  | term text =>
      rw [Document.satisfies, Text.fold_eq_lower]
      exact project_contains_iff
  | and left right ihl ihr => rw [Document.satisfies, Bool.and_eq_true, ihl, ihr, Holds]
  | or left right ihl ihr => rw [Document.satisfies, Bool.or_eq_true, ihl, ihr, Holds]
  | not inner ih => rw [Document.satisfies, Bool.not_eq_true', ← Bool.not_eq_true, ih, Holds]

instance {e : Expr} : Decidable (Holds l t e) :=
  decidable_of_iff ((project l t).satisfies e = true) satisfies_iff_holds

/-- To fold an expression beforehand makes no difference to any document. -/
theorem satisfies_foldCase (d : Document) (e : Expr) : d.satisfies e.foldCase = d.satisfies e := by
  induction e with
  | matchAll => rfl
  | term text =>
      -- folded once by `foldCase` and once more by the document
      show d.contains (Text.fold (lower text)) = d.contains (Text.fold text)
      rw [Text.fold_eq_lower, Text.fold_eq_lower, Text.lower_lower]
  | and left right ihl ihr => rw [Expr.foldCase, Document.satisfies, Document.satisfies, ihl, ihr]
  | or left right ihl ihr => rw [Expr.foldCase, Document.satisfies, Document.satisfies, ihl, ihr]
  | not inner ih => rw [Expr.foldCase, Document.satisfies, Document.satisfies, ih]

/-! ### The search -/

theorem eq_matchAll_of_isMatchAll_foldCase {e : Expr} (h : e.foldCase.isMatchAll = true) :
    e = .matchAll := by
  cases e with
  | matchAll => rfl
  | term | and | or | not => exact absurd h Bool.false_ne_true

/-- The search keeps the transactions whose document satisfies the expression of the query. Neither
the folding of the expression nor the shortcut for `matchAll` shows in the result. -/
theorem search_of_parse {query : String} {options : ParseOptions} {e : Expr}
    (h : parse query options = .ok e) :
    search l query options
      = .ok (l.transactions.filter fun t => (project l t).satisfies e) := by
  rw [search, h]
  simp only [satisfies_foldCase]
  split
  case isTrue hall =>
    rw [eq_matchAll_of_isMatchAll_foldCase hall]
    simp [Document.satisfies]
  case isFalse => rfl

/-- **The search finds what the query says.** It gives the transactions that satisfy the expression
of the query, in ledger order and as often as the ledger has them. -/
theorem search_eq_filter {query : String} {options : ParseOptions} {e : Expr}
    (h : parse query options = .ok e) :
    search l query options = .ok (l.transactions.filter fun t => Holds l t e) := by
  rw [search, h]
  show (if e.foldCase.isMatchAll = true then Except.ok l.transactions
    else .ok (l.transactions.filter fun t => (project l t).satisfies e.foldCase)) = _
  split
  case isTrue hall =>
    -- the shortcut for the query that asks for nothing
    rw [eq_matchAll_of_isMatchAll_foldCase hall, List.filter_eq_self.mpr]
    intro t _
    exact decide_eq_true trivial
  case isFalse =>
    congr 1
    refine List.filter_congr fun t _ => ?_
    rw [satisfies_foldCase, Bool.eq_iff_iff, decide_eq_true_iff, satisfies_iff_holds]

/-- A ledger with a transaction that is there twice, two categories that are each other's parents
and a third one that is never meant, because it repeats an identifier. -/
def tangledLedger : Ledger where
  transactions :=
    [{ id := 1, payee := some "Corner shop", categoryId := some 10 },
      { id := 2, payee := some "Fast food", categoryId := some 99, tagIds := [7, 8] },
      { id := 3, categoryId := some 11, bankAccountId := some 4 },
      { id := 1, payee := some "Corner shop", categoryId := some 10 }]
  bankAccounts := [⟨4, 5, "Savings"⟩]
  categories := [⟨10, "Groceries", some 11⟩, ⟨11, "Food", some 10⟩, ⟨10, "Shadow", none⟩]
  tags := [⟨8, "Treat"⟩]

/-- The query `("FOOD" AND NOT ("treat" OR "shadow"))`, which the transaction with the tag does not
satisfy. -/
theorem search_tangledLedger :
    let e := Expr.and (.term "FOOD") (.not (.or (.term "treat") (.term "shadow")))
    parse e.canonical {} = .ok e ∧
      search tangledLedger e.canonical {}
        = .ok (tangledLedger.transactions.filter fun t => Holds tangledLedger t e) ∧
      (tangledLedger.transactions.filter fun t => Holds tangledLedger t e).map (·.id)
        = [1, 3, 1] := by
  intro e
  have hwritable : e.Writable := by
    simp only [e, Expr.writable_and_iff, Expr.writable_not_iff, Expr.writable_or_iff,
      Expr.writable_term_iff]
    decide
  have hparse : parse e.canonical {} = .ok e :=
    (Query.parse_canonical_iff_of_writable hwritable {}).mpr (by decide)
  exact ⟨hparse, search_eq_filter hparse, by decide⟩

end LedgerSearch.Search
