import LedgerSearch.Proofs.Ledger.CategoryWalk
import LedgerSearch.Proofs.Search.Explanation

/-!
# `LedgerSearch.Proofs.Search.SameReferences`: only the first record with an identifier counts

Reference data may be kept in any order and may hold records that no reference means, because an
earlier one has the same identifier. Whoever tidies it up should not change what is found. So two
ledgers are compared here in which every identifier means the same record (`SameReferences`),
however many other records there are and wherever they stand.

`search_sameReferences` states that the two give the same results to every query, and name the same
fields for every match. The documents themselves need not be equal. A walk round a cycle of
categories is stopped by a limit that counts the records nobody means, so the two may break off at
different places of the cycle. They have the same fragments all the same (`mem_project_congr`), and
no answer depends on anything else (`Document.satisfies_congr`). Where the walk ends there is no
such difference, and the documents are equal (`project_eq_of_ends`).
-/

set_option autoImplicit false

namespace LedgerSearch.Ledger

/-- In both ledgers every identifier means the same record. -/
structure SameReferences (l l' : Ledger) : Prop where
  banks : ∀ id bank, IsFirst (·.id = id) l.banks bank ↔ IsFirst (·.id = id) l'.banks bank
  bankAccounts : ∀ id account,
    IsFirst (·.id = id) l.bankAccounts account ↔ IsFirst (·.id = id) l'.bankAccounts account
  categories : ∀ id category,
    IsFirst (·.id = id) l.categories category ↔ IsFirst (·.id = id) l'.categories category
  trips : ∀ id trip, IsFirst (·.id = id) l.trips trip ↔ IsFirst (·.id = id) l'.trips trip
  tags : ∀ id tag, IsFirst (·.id = id) l.tags tag ↔ IsFirst (·.id = id) l'.tags tag

namespace SameReferences

variable {l l' : Ledger}

/-! ### Lookups -/

theorem bank?_eq (h : SameReferences l l') : l.bank? = l'.bank? :=
  funext fun id => Option.ext fun bank => by
    rw [bank?_eq_some_iff, bank?_eq_some_iff, h.banks]

theorem bankAccount?_eq (h : SameReferences l l') : l.bankAccount? = l'.bankAccount? :=
  funext fun id => Option.ext fun account => by
    rw [bankAccount?_eq_some_iff, bankAccount?_eq_some_iff, h.bankAccounts]

theorem category?_eq (h : SameReferences l l') : l.category? = l'.category? :=
  funext fun id => Option.ext fun category => by
    rw [category?_eq_some_iff, category?_eq_some_iff, h.categories]

theorem trip?_eq (h : SameReferences l l') : l.trip? = l'.trip? :=
  funext fun id => Option.ext fun trip => by
    rw [trip?_eq_some_iff, trip?_eq_some_iff, h.trips]

theorem tag?_eq (h : SameReferences l l') : l.tag? = l'.tag? :=
  funext fun id => Option.ext fun tag => by
    rw [tag?_eq_some_iff, tag?_eq_some_iff, h.tags]

/-! ### The category tree -/

theorem climb_eq (h : SameReferences l l') : l.climb = l'.climb := by
  have hparent : l.parent? = l'.parent? :=
    funext fun c => by rw [parent?, parent?, h.category?_eq]
  funext k start
  rw [climb, climb, hparent]

theorem ends_iff (h : SameReferences l l') {id : Id} : l.Ends id ↔ l'.Ends id := by
  rw [Ends, Ends, h.climb_eq, h.category?_eq]

theorem reaches_iff (h : SameReferences l l') {id : Id} {c : Category} :
    l.Reaches id c ↔ l'.Reaches id c := by
  rw [reaches_iff_climb, reaches_iff_climb, h.climb_eq, h.category?_eq]

/-- A walk that ends has the same stops in both ledgers, although its limits differ. -/
theorem categoryPath_eq (h : SameReferences l l') {id : Id} (hends : l.Ends id) :
    l.categoryPath id = l'.categoryPath id := by
  have hchain : l.categoryChain l.categories.length (some id)
      = l'.categoryChain l'.categories.length (some id) :=
    List.ext_getElem? fun k => by
      rw [hends.getElem?_categoryChain, (h.ends_iff.mp hends).getElem?_categoryChain, h.climb_eq,
        h.category?_eq]
  rw [categoryPath, categoryPath, hchain]

end SameReferences

end LedgerSearch.Ledger

namespace LedgerSearch.Search

open LedgerSearch.Ledger
open LedgerSearch.Query (Expr ParseOptions parse)

/-! ### Documents with the same fragments -/

section
variable {d d' : Document}

theorem Document.contains_congr (h : ∀ f, f ∈ d.fragments ↔ f ∈ d'.fragments) (needle : String) :
    d.contains needle = d'.contains needle := by
  rw [Document.contains, Document.contains, Bool.eq_iff_iff]
  simp only [Bool.or_eq_true, List.any_eq_true, h]

/-- An expression cannot tell in which order fragments come, or how often. -/
theorem Document.satisfies_congr (h : ∀ f, f ∈ d.fragments ↔ f ∈ d'.fragments) (e : Expr) :
    d.satisfies e = d'.satisfies e := by
  induction e with
  | matchAll => rfl
  | term text => exact Document.contains_congr h (Text.fold text)
  | and left right ihl ihr => rw [Document.satisfies, Document.satisfies, ihl, ihr]
  | or left right ihl ihr => rw [Document.satisfies, Document.satisfies, ihl, ihr]
  | not inner ih => rw [Document.satisfies, Document.satisfies, ih]

theorem matchedFields_congr (h : ∀ f, f ∈ d.fragments ↔ f ∈ d'.fragments) (e : Expr) :
    matchedFields e d = matchedFields e d' := by
  have hfield : d.fieldContains = d'.fieldContains := by
    funext field term
    rw [Document.fieldContains, Document.fieldContains, Bool.eq_iff_iff]
    simp only [Bool.and_eq_true, List.any_eq_true, h]
  rw [matchedFields, matchedFields, hfield]

end

/-! ### Documents from the same references -/

variable {l l' : Ledger}

/-- A transaction can be searched by the same texts. -/
theorem isSearchable_congr (h : SameReferences l l') (t : Transaction) (field : Field)
    (s : String) : IsSearchable l t field s ↔ IsSearchable l' t field s := by
  have haccount : ∀ account, IsAccountOf l t account ↔ IsAccountOf l' t account := fun account => by
    rw [IsAccountOf, IsAccountOf]
    simp only [h.bankAccounts]
  cases field with
  | payee | counterparty | description => rfl
  | category => simp only [IsSearchable, h.reaches_iff]
  | bank => simp only [IsSearchable, haccount, h.banks]
  | account => simp only [IsSearchable, haccount]
  | trip => simp only [IsSearchable, h.trips]
  | tag => simp only [IsSearchable, h.tags]

theorem mem_project_congr (h : SameReferences l l') (t : Transaction) (f : Fragment) :
    f ∈ (project l t).fragments ↔ f ∈ (project l' t).fragments := by
  rw [mem_project_iff, mem_project_iff, isSearchable_congr h]

/-- Where the parents of the category come to an end, the documents are equal. -/
theorem project_eq_of_ends (h : SameReferences l l') {t : Transaction}
    (hends : ∀ id, t.categoryId = some id → l.Ends id) : project l t = project l' t := by
  have hcategories : t.categoryId.toList.flatMap l.categoryPath
      = t.categoryId.toList.flatMap l'.categoryPath := by
    cases hid : t.categoryId with
    | none => rfl
    | some id => simp [h.categoryPath_eq (hends id hid)]
  have haccount : accountFragments l t = accountFragments l' t := by
    rw [accountFragments, accountFragments, h.bankAccount?_eq, h.bank?_eq]
  rw [project, project, hcategories, haccount, h.trip?_eq, h.tag?_eq]

/-! ### Searches -/

/-- **Only the first record with an identifier counts.** Over the same transactions, reference data
in which every identifier means the same record gives the same results to every query, for the
search and for the word search, and the same fields for every match. The documents are equal too,
unless the category of the transaction leads into a cycle. -/
theorem search_sameReferences (h : SameReferences l l') (ht : l.transactions = l'.transactions) :
    (∀ query, wordSearch l query = wordSearch l' query) ∧
    (∀ query options, search l query options = search l' query options) ∧
    (∀ e t, matchedFields e (project l t) = matchedFields e (project l' t)) ∧
    ∀ t, (∀ id, t.categoryId = some id → l.Ends id) → project l t = project l' t := by
  have hfilter : ∀ e, (l.transactions.filter fun t => (project l t).satisfies e)
      = l'.transactions.filter fun t => (project l' t).satisfies e := fun e => by
    rw [ht]
    exact List.filter_congr fun t _ => Document.satisfies_congr (mem_project_congr h t) e
  refine ⟨fun query => ?_, fun query options => ?_, fun e t => ?_, fun t => project_eq_of_ends h⟩
  · have hcontains : ∀ t, (project l t).contains = (project l' t).contains := fun t =>
      funext (Document.contains_congr (mem_project_congr h t))
    rw [wordSearch, wordSearch, ht]
    simp only [hcontains]
  · cases hparse : parse query options with
    | error err => rw [search, search, hparse]
    | ok e => rw [search_of_parse hparse, search_of_parse hparse, hfilter]
  · exact matchedFields_congr (mem_project_congr h t) e

/-- The transactions of `tangledLedger`, with its reference data in another order and with more
records that nobody means. -/
def reorderedLedger : Ledger :=
  { tangledLedger with
    bankAccounts := [⟨4, 5, "Savings"⟩, ⟨4, 6, "Shadow"⟩]
    categories := [⟨11, "Food", some 10⟩, ⟨10, "Groceries", some 11⟩, ⟨11, "Shadow", none⟩,
      ⟨10, "Shadow", some 11⟩]
    tags := [⟨8, "Treat"⟩, ⟨8, "Shadow"⟩] }

/-- The second transaction refers to a category that does not exist, so its documents are equal. The
first one lies in a cycle, round which the two walks go unequally far. -/
theorem search_sameReferences_reorderedLedger :
    let first := tangledLedger.transactions[0]
    let second := tangledLedger.transactions[1]
    SameReferences tangledLedger reorderedLedger ∧
      tangledLedger.transactions = reorderedLedger.transactions ∧
      search tangledLedger "groceries food" {} = search reorderedLedger "groceries food" {} ∧
      project tangledLedger first ≠ project reorderedLedger first ∧
      (∀ id, second.categoryId = some id → tangledLedger.Ends id) ∧
      project tangledLedger second = project reorderedLedger second := by
  intro first second
  have hsame : SameReferences tangledLedger reorderedLedger := by
    constructor <;> intro id record
    · rfl
    · rw [← bankAccount?_eq_some_iff, ← bankAccount?_eq_some_iff]
      by_cases h : (4 : Id) = id <;> simp [bankAccount?, tangledLedger, reorderedLedger, h]
    · rw [← category?_eq_some_iff, ← category?_eq_some_iff]
      obtain rfl | h := eq_or_ne (10 : Id) id
      · simp [category?, tangledLedger, reorderedLedger]
      · by_cases h' : (11 : Id) = id <;> simp [category?, tangledLedger, reorderedLedger, h, h']
    · rfl
    · rw [← tag?_eq_some_iff, ← tag?_eq_some_iff]
      by_cases h : (8 : Id) = id <;> simp [tag?, tangledLedger, reorderedLedger, h]
  have hends : ∀ id, second.categoryId = some id → tangledLedger.Ends id := by
    rintro id ⟨⟩
    exact ⟨0, by decide⟩
  obtain ⟨-, hsearch, -, hproject⟩ := search_sameReferences hsame rfl
  exact ⟨hsame, rfl, hsearch _ _, by decide, hends, hproject second hends⟩

end LedgerSearch.Search
