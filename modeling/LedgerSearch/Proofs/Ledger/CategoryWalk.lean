import LedgerSearch.Proofs.Ledger.References
import Mathlib.Data.List.Nodup
import Mathlib.Data.List.Perm.Subperm

/-!
# `LedgerSearch.Proofs.Ledger.CategoryWalk`: where a walk to the root ends

The walk behind `categoryPath` remembers no place. It stops where there is no parent to go to, and
otherwise when it has taken as many steps as there are categories. `References` shows that it misses
nothing by that. This module asks the other question: does it come to a place again?

A walk that comes to an end never does, and the limit does not show in it (`Ends.climb_eq_none`). A
walk that goes round a cycle is stopped by the limit alone, and the limit counts the categories off
the cycle as well. So it sets out on a second turn unless all the categories of the ledger lie on
its way: `categoryChain_nodup_iff` is the exact condition, and `categoryPath_second_turn` shows what
happens in the smallest ledger that does not meet it.
-/

set_option autoImplicit false

namespace LedgerSearch.Ledger

/-- Parents lead from the category with the identifier to an end: to a root, to a parent that does
not exist, or nowhere at all, when there is no such category. -/
def Ends (l : Ledger) (id : Id) : Prop :=
  ∃ k, l.climb k (l.category? id) = none

variable {l : Ledger} {id : Id}

/-! ### Walks that end -/

/-- Who is at one place twice walks on forever. -/
theorem isSome_climb_of_repeat {i j : Nat} (hij : i < j)
    (hsome : (l.climb j (l.category? id)).isSome)
    (heq : l.climb i (l.category? id) = l.climb j (l.category? id)) (k : Nat) :
    (l.climb k (l.category? id)).isSome := by
  induction k using Nat.strong_induction_on with
  | _ k ih =>
    obtain hlt | hle := Nat.lt_or_ge j k
    · -- leave out the turn between the two visits
      obtain ⟨n, rfl⟩ := Nat.exists_eq_add_of_le' (Nat.le_of_lt hlt)
      rw [climb_add, ← heq, ← climb_add]
      exact ih (n + i) (by omega)
    · exact isSome_climb_of_le hsome hle

/-- A walk that ends is at no place twice. -/
theorem Ends.climb_ne (h : l.Ends id) {i j : Nat} (hij : i < j)
    (hsome : (l.climb j (l.category? id)).isSome) :
    l.climb i (l.category? id) ≠ l.climb j (l.category? id) := by
  intro heq
  obtain ⟨e, he⟩ := h
  have hend := isSome_climb_of_repeat hij hsome heq e
  rw [he] at hend
  exact absurd hend Bool.false_ne_true

/-- A walk that ends does so within as many steps as there are categories. -/
theorem Ends.climb_eq_none (h : l.Ends id) {k : Nat} (hk : l.categories.length ≤ k) :
    l.climb k (l.category? id) = none := by
  by_contra hsome
  have hfull : (l.climb l.categories.length (l.category? id)).isSome :=
    isSome_climb_of_le (Option.isSome_iff_ne_none.mpr hsome) hk
  obtain ⟨i, j, hij, hj, heq⟩ := exists_climb_repeat hfull
  exact h.climb_ne hij (isSome_climb_of_le hfull hj) heq

/-- In a walk that ends, the chain has all its stops: the limit cuts off none. -/
theorem Ends.getElem?_categoryChain (h : l.Ends id) (k : Nat) :
    (l.categoryChain l.categories.length (some id))[k]? = l.climb k (l.category? id) := by
  rw [Ledger.getElem?_categoryChain, Option.bind_some]
  split
  case isTrue => rfl
  case isFalse hlimit => rw [h.climb_eq_none (Nat.le_of_not_lt hlimit)]

/-- A walk that ends visits no category twice, wherever its limit stops it. -/
theorem Ends.nodup_categoryChain (h : l.Ends id) (limit : Nat) :
    (l.categoryChain limit (some id)).Nodup := by
  rw [List.nodup_iff_getElem?_ne_getElem?]
  intro i j hij hj
  have hsome : (l.categoryChain limit (some id))[j]?.isSome := by
    rw [List.getElem?_eq_getElem hj]
    rfl
  rw [Ledger.getElem?_categoryChain] at hsome
  rw [Ledger.getElem?_categoryChain, Ledger.getElem?_categoryChain]
  split at hsome
  case isTrue hlimit =>
    rw [if_pos hlimit, if_pos (Nat.lt_trans hij hlimit)]
    exact h.climb_ne hij hsome
  case isFalse => exact absurd hsome Bool.false_ne_true

/-! ### Walks without an end -/

theorem length_categoryChain_le (l : Ledger) (limit : Nat) (id : Option Id) :
    (l.categoryChain limit id).length ≤ limit := by
  rw [← List.getElem?_eq_none_iff, getElem?_categoryChain, if_neg (Nat.lt_irrefl limit)]

/-- Where there is no end, nothing but the limit stops the walk. -/
theorem length_categoryChain_of_not_ends (h : ¬ l.Ends id) (limit : Nat) :
    (l.categoryChain limit (some id)).length = limit := by
  refine Nat.le_antisymm (length_categoryChain_le l limit _) ?_
  by_contra hlt
  -- the chain would be over where the walk is not
  have hend := List.getElem?_eq_none (Nat.le_refl (l.categoryChain limit (some id)).length)
  rw [getElem?_categoryChain, if_pos (Nat.lt_of_not_le hlt)] at hend
  exact h ⟨_, hend⟩

/-! ### Coming to a place again -/

/-- **When the walk to the root visits no category twice.** It does not where it comes to an end, or
where all the categories of the ledger, each of them on record once, lie on its way. A cycle that
leaves out a category is entered for a second turn. -/
theorem categoryChain_nodup_iff (l : Ledger) (id : Id) :
    (l.categoryChain l.categories.length (some id)).Nodup
      ↔ l.Ends id ∨ (l.categories.Nodup ∧ ∀ c ∈ l.categories, l.Reaches id c) := by
  have hmem : ∀ c, c ∈ l.categoryChain l.categories.length (some id) ↔ l.Reaches id c :=
    fun c => mem_categoryChain_iff
  constructor
  · intro hnodup
    refine or_iff_not_imp_left.mpr fun hends => ?_
    -- as many different stops as there are categories
    have hsubset : l.categoryChain l.categories.length (some id) ⊆ l.categories := by
      intro c hc
      obtain ⟨k, hk⟩ := reaches_iff_climb.mp ((hmem c).mp hc)
      exact mem_categories_of_climb hk
    have hperm : (l.categoryChain l.categories.length (some id)).Perm l.categories :=
      (hnodup.subperm hsubset).perm_of_length_le (length_categoryChain_of_not_ends hends _).ge
    exact ⟨hperm.nodup_iff.mp hnodup, fun c hc => (hmem c).mp (hperm.mem_iff.mpr hc)⟩
  · rintro (hends | ⟨hnodup, hall⟩)
    · exact hends.nodup_categoryChain _
    · have hsubperm : l.categories.Subperm (l.categoryChain l.categories.length (some id)) :=
        hnodup.subperm fun c hc => (hmem c).mpr (hall c hc)
      exact (hsubperm.perm_of_length_le (length_categoryChain_le l _ _)).nodup_iff.mp hnodup

/-- Two categories that are each other's parents, and a third that neither of them leads to. -/
def cycleWithBystander : Ledger where
  categories := [⟨1, "A", some 2⟩, ⟨2, "B", some 1⟩, ⟨3, "C", none⟩]

/-- The walk has a step left after its first turn, because the third category counts. -/
theorem categoryPath_second_turn :
    ¬ (cycleWithBystander.categoryChain cycleWithBystander.categories.length (some 1)).Nodup
      ∧ cycleWithBystander.categoryPath 1 = ["A", "B", "A"] := by
  decide

end LedgerSearch.Ledger
