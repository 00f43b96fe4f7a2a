import LedgerSearch.Ledger.Basic
import Mathlib.Data.Finset.Card
import Mathlib.Logic.Function.Iterate

/-!
# `LedgerSearch.Proofs.Ledger.References`: what a reference leads to

A reference means the first record with its identifier (`IsFirst`), and a category lies above
another when parents lead from the one to the other (`Reaches`). Neither speaks of a search in a
list or of a walk that counts its steps. The two results of this module are that the lookups find
the first record and that `categoryPath` names every category above the one it starts from.

The second is not evident, because the walk stops after as many steps as there are categories,
whether or not it is at a root. It loses nothing by that: a walk that takes more steps has been at
one of the categories twice, so whatever comes after the second visit came after the first one
already (`exists_climb_eq_of_le`).
-/

set_option autoImplicit false

namespace LedgerSearch.Ledger

/-! ### The first record -/

/-- The record is the first of the list of which `p` holds. -/
def IsFirst {α : Type} (p : α → Prop) (records : List α) (record : α) : Prop :=
  ∃ before after, records = before ++ record :: after ∧ p record ∧ ∀ other ∈ before, ¬ p other

/-- A search from the front of a list finds the first record of which `p` holds. -/
theorem find?_eq_some_iff_isFirst {α : Type} {p : α → Prop} [DecidablePred p] {records : List α}
    {record : α} :
    records.find? (fun r => decide (p r)) = some record ↔ IsFirst p records record := by
  rw [List.find?_eq_some_iff_append]
  constructor
  · rintro ⟨hp, before, after, hrecords, hbefore⟩
    exact ⟨before, after, hrecords, by simpa using hp, by simpa using hbefore⟩
  · rintro ⟨before, after, hrecords, hp, hbefore⟩
    exact ⟨by simpa using hp, before, after, hrecords, by simpa using hbefore⟩

theorem bank?_eq_some_iff {l : Ledger} {id : Id} {bank : Bank} :
    l.bank? id = some bank ↔ IsFirst (·.id = id) l.banks bank :=
  find?_eq_some_iff_isFirst

theorem bankAccount?_eq_some_iff {l : Ledger} {id : Id} {account : BankAccount} :
    l.bankAccount? id = some account ↔ IsFirst (·.id = id) l.bankAccounts account :=
  find?_eq_some_iff_isFirst

theorem category?_eq_some_iff {l : Ledger} {id : Id} {category : Category} :
    l.category? id = some category ↔ IsFirst (·.id = id) l.categories category :=
  find?_eq_some_iff_isFirst

theorem trip?_eq_some_iff {l : Ledger} {id : Id} {trip : Trip} :
    l.trip? id = some trip ↔ IsFirst (·.id = id) l.trips trip :=
  find?_eq_some_iff_isFirst

theorem tag?_eq_some_iff {l : Ledger} {id : Id} {tag : Tag} :
    l.tag? id = some tag ↔ IsFirst (·.id = id) l.tags tag :=
  find?_eq_some_iff_isFirst

/-! ### Climbing the category tree -/

/-- The category that the parent identifier of a category leads to. -/
def parent? (l : Ledger) (c : Category) : Option Category :=
  c.parentId.bind l.category?

/-- Where a walk is after `k` further steps to a parent. -/
def climb (l : Ledger) (k : Nat) (start : Option Category) : Option Category :=
  (·.bind l.parent?)^[k] start

@[simp]
theorem climb_zero (l : Ledger) (start : Option Category) : l.climb 0 start = start := rfl

theorem climb_succ (l : Ledger) (k : Nat) (start : Option Category) :
    l.climb (k + 1) start = l.climb k (start.bind l.parent?) := rfl

theorem climb_succ' (l : Ledger) (k : Nat) (start : Option Category) :
    l.climb (k + 1) start = (l.climb k start).bind l.parent? :=
  Function.iterate_succ_apply' _ k start

theorem climb_add (l : Ledger) (j k : Nat) (start : Option Category) :
    l.climb (j + k) start = l.climb j (l.climb k start) :=
  Function.iterate_add_apply _ j k start

@[simp]
theorem climb_none (l : Ledger) (k : Nat) : l.climb k none = none := by
  induction k with
  | zero => rfl
  | succ k ih => rw [climb_succ, Option.bind_none, ih]

/-- Whoever took more steps took fewer steps before. -/
theorem isSome_climb_of_le {l : Ledger} {j k : Nat} {start : Option Category}
    (hk : (l.climb k start).isSome) (hj : j ≤ k) : (l.climb j start).isSome := by
  obtain ⟨n, rfl⟩ := Nat.exists_eq_add_of_le' hj
  rw [climb_add] at hk
  -- a walk that has come to nothing goes on to nothing
  cases hstep : l.climb j start with
  | none => simp [hstep] at hk
  | some c => rfl

/-- A step leads to a category of the ledger. -/
theorem mem_categories_of_climb {l : Ledger} {id : Id} {k : Nat} {c : Category}
    (h : l.climb k (l.category? id) = some c) : c ∈ l.categories := by
  cases k with
  | zero => exact List.mem_of_find?_eq_some h
  | succ k =>
    rw [climb_succ'] at h
    obtain ⟨d, -, hd⟩ := Option.bind_eq_some_iff.mp h
    obtain ⟨parentId, -, hparent⟩ := Option.bind_eq_some_iff.mp hd
    exact List.mem_of_find?_eq_some hparent

/-- A walk that takes as many steps as there are categories is at one place twice. -/
theorem exists_climb_repeat {l : Ledger} {id : Id}
    (h : (l.climb l.categories.length (l.category? id)).isSome) :
    ∃ i j, i < j ∧ j ≤ l.categories.length ∧
      l.climb i (l.category? id) = l.climb j (l.category? id) := by
  have hstops : ∀ j ∈ Finset.range (l.categories.length + 1),
      l.climb j (l.category? id) ∈ (l.categories.map some).toFinset := by
    intro j hj
    have hle : j ≤ l.categories.length := Nat.lt_succ_iff.mp (Finset.mem_range.mp hj)
    obtain ⟨c, hc⟩ := Option.isSome_iff_exists.mp (isSome_climb_of_le h hle)
    rw [hc]
    exact List.mem_toFinset.mpr (List.mem_map_of_mem (mem_categories_of_climb hc))
  -- one stop more than there are categories
  have hcard : (l.categories.map some).toFinset.card
      < (Finset.range (l.categories.length + 1)).card := by
    have := List.toFinset_card_le (l.categories.map some)
    rw [List.length_map] at this
    rw [Finset.card_range]
    omega
  obtain ⟨x, hx, y, hy, hne, heq⟩ :=
    Finset.exists_ne_map_eq_of_card_lt_of_maps_to hcard hstops
  -- the two stops come in no order yet
  have hx := Finset.mem_range.mp hx
  have hy := Finset.mem_range.mp hy
  obtain hlt | hlt := Nat.lt_or_gt_of_ne hne
  · exact ⟨x, y, hlt, by omega, heq⟩
  · exact ⟨y, x, hlt, by omega, heq.symm⟩

/-- What a walk of at least as many steps as there are categories ends at, a shorter walk ends at
as well. -/
theorem exists_climb_eq_of_le {l : Ledger} {id : Id} {k : Nat} {c : Category}
    (h : l.climb k (l.category? id) = some c) (hk : l.categories.length ≤ k) :
    ∃ j < k, l.climb j (l.category? id) = some c := by
  have hfull : (l.climb l.categories.length (l.category? id)).isSome :=
    isSome_climb_of_le (by rw [h]; rfl) hk
  obtain ⟨i, j, hij, hj, heq⟩ := exists_climb_repeat hfull
  -- leave out the steps between the two visits
  refine ⟨k - j + i, by omega, ?_⟩
  rw [climb_add, heq, ← climb_add, Nat.sub_add_cancel (by omega), h]

/-- The first `l.categories.length` stops of a walk are all there are. -/
theorem exists_climb_lt {l : Ledger} {id : Id} {k : Nat} {c : Category}
    (h : l.climb k (l.category? id) = some c) :
    ∃ j < l.categories.length, l.climb j (l.category? id) = some c := by
  induction k using Nat.strong_induction_on with
  | _ k ih =>
    -- one shortening may not be enough, so the walk is shortened until it fits
    obtain hlt | hle := Nat.lt_or_ge k l.categories.length
    · exact ⟨k, hlt, h⟩
    · obtain ⟨j, hj, hstop⟩ := exists_climb_eq_of_le h hle
      exact ih j hj hstop

/-! ### The category path -/

/-- The stops of a walk, in order, up to the limit. -/
theorem getElem?_categoryChain (l : Ledger) (limit : Nat) (id : Option Id) (k : Nat) :
    (l.categoryChain limit id)[k]?
      = if k < limit then l.climb k (id.bind l.category?) else none := by
  induction limit generalizing id k with
  | zero => rw [categoryChain, List.getElem?_nil, if_neg (Nat.not_lt_zero k)]
  -- the chain takes its steps at the front, as `climb_succ` does
  | succ limit ih =>
    rw [categoryChain]
    split
    -- where the walk ends, the chain is empty from there on
    case h_1 hnone => simp [hnone]
    case h_2 c hc =>
      cases k with
      | zero => simp [hc]
      | succ k =>
        rw [List.getElem?_cons_succ, ih, hc, climb_succ]
        simp only [Nat.succ_lt_succ_iff, Option.bind_some, parent?]

/-- Parents lead from the category with the identifier to the other one, in any number of steps. -/
inductive Reaches (l : Ledger) (id : Id) : Category → Prop
  | self {c : Category} (hc : IsFirst (·.id = id) l.categories c) : Reaches l id c
  | parent {c d : Category} {parentId : Id} (below : Reaches l id c)
      (hparent : c.parentId = some parentId) (hd : IsFirst (·.id = parentId) l.categories d) :
      Reaches l id d

theorem reaches_iff_climb {l : Ledger} {id : Id} {c : Category} :
    l.Reaches id c ↔ ∃ k, l.climb k (l.category? id) = some c := by
  constructor
  · intro h
    induction h with
    | self hc => exact ⟨0, category?_eq_some_iff.mpr hc⟩
    | parent _ hparent hd ih =>
      obtain ⟨k, hk⟩ := ih
      refine ⟨k + 1, ?_⟩
      rw [climb_succ', hk, Option.bind_some, parent?, hparent, Option.bind_some]
      exact category?_eq_some_iff.mpr hd
  · rintro ⟨k, hk⟩
    -- the last step of the walk is the last parent of the derivation
    induction k generalizing c with
    | zero => exact .self (category?_eq_some_iff.mp hk)
    | succ k ih =>
      rw [climb_succ'] at hk
      obtain ⟨d, hd, hstep⟩ := Option.bind_eq_some_iff.mp hk
      obtain ⟨parentId, hparent, hc⟩ := Option.bind_eq_some_iff.mp hstep
      exact .parent (ih hd) hparent (category?_eq_some_iff.mp hc)

/-- The walk behind the category path comes to every category that parents lead to, and to no
other. -/
theorem mem_categoryChain_iff {l : Ledger} {id : Id} {c : Category} :
    c ∈ l.categoryChain l.categories.length (some id) ↔ l.Reaches id c := by
  rw [List.mem_iff_getElem?, reaches_iff_climb]
  simp only [getElem?_categoryChain, Option.bind_some]
  constructor
  · rintro ⟨k, hk⟩
    split at hk
    · exact ⟨k, hk⟩
    · exact absurd hk (Option.some_ne_none c).symm
  · rintro ⟨k, hk⟩
    -- the chain stops early enough to miss `k`, but not to miss the place
    obtain ⟨j, hj, hstop⟩ := exists_climb_lt hk
    exact ⟨j, by rw [if_pos hj, hstop]⟩

/-- The category path names every category that parents lead to, and no other. -/
theorem mem_categoryPath_iff {l : Ledger} {id : Id} {name : String} :
    name ∈ l.categoryPath id ↔ ∃ c, l.Reaches id c ∧ c.name = name := by
  simp only [categoryPath, List.mem_map, mem_categoryChain_iff]

end LedgerSearch.Ledger
