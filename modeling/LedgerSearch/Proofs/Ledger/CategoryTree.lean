import LedgerSearch.Ledger.CategoryTree
import LedgerSearch.Proofs.Ledger.CategoryWalk

/-!
# `LedgerSearch.Proofs.Ledger.CategoryTree`: a walk to the root stays in the tree and loses nothing

A `CategoryTree` is built in two passes, first the places of all identifiers, then the nodes with
the places of their parents. Its index gives what a search from the front of the list would find
(`CategoryTree.place?_ofList`), whichever identifiers repeat. So a walk is sent to places of
categories only, and it finds there what `Ledger.categoryChain` finds by looking identifiers up
(`CategoryTree.walk_ofList`).

What stops a walk besides the root is a number of names, which could cut it short. `ClimbsToRoot`
says what there is to find: the categories from the one with the identifier to one without a parent.
Such a climb is at no category twice, so it has at most as many names as there are categories, and
the walk has all of them (`ClimbsToRoot.categoryChain_eq`). `CategoryTree.path_complete` is the
result.
-/

set_option autoImplicit false

namespace LedgerSearch.Ledger

/-! ### Places -/

namespace CategoryTree

/-- An identifier keeps its place, or gets that of the category if it is the one of the category. -/
theorem lookup_addPlace (index : List (Id × Nat)) (c : Category) (place : Nat) (id : Id) :
    (addPlace index (c, place)).lookup id
      = (index.lookup id).or (if c.id = id then some place else none) := by
  rw [addPlace]
  by_cases hid : c.id = id
  · subst hid
    cases hplace : index.lookup c.id <;> simp [hplace]
  · have hne : (id == c.id) = false := by simpa using Ne.symm hid
    rw [if_neg hid, Option.or_none]
    split
    · rfl
    · rw [List.lookup_cons, hne]

/-- The first pass: places are counted on from `next`, and what has a place keeps it. -/
theorem lookup_foldl_addPlace (categories : List Category) (next : Nat) (index : List (Id × Nat))
    (id : Id) :
    ((categories.zipIdx next).foldl addPlace index).lookup id
      = (index.lookup id).or ((categories.findIdx? (·.id = id)).map (· + next)) := by
  -- over the categories, for every index: each is added to what those in front of it have left
  induction categories generalizing next index with
  | nil => simp
  | cons c categories ih =>
      rw [List.zipIdx_cons, List.foldl_cons, ih, lookup_addPlace, Option.or_assoc,
        List.findIdx?_cons]
      by_cases hid : c.id = id
      · simp [hid]
      · simp [hid, Function.comp_def, Nat.add_assoc, Nat.add_comm 1]

/-- The place of an identifier is that of the first category with it. -/
theorem place?_ofList (categories : List Category) (id : Id) :
    (ofList categories).place? id = categories.findIdx? (·.id = id) := by
  rw [place?, ofList, lookup_foldl_addPlace]
  simp

/-- The second pass: there is a node at the places of the categories and nowhere else. -/
theorem getElem?_nodes (categories : List Category) (place : Nat) :
    (ofList categories).nodes[place]? = categories[place]?.map fun c =>
      ⟨c.name, c.parentId.bind (ofList categories).place?⟩ := by
  rw [ofList, List.getElem?_toArray, List.getElem?_map]
  rfl

theorem size_nodes (categories : List Category) :
    (ofList categories).nodes.size = categories.length := by
  simp [ofList]

/-- The category that an identifier means is the one at its place. -/
theorem category?_eq_bind_place? (l : Ledger) (id : Id) :
    l.category? id = ((ofList l.categories).place? id).bind (l.categories[·]?) := by
  rw [place?_ofList, category?, List.find?_eq_bind_findIdx?_getElem?]

/-- The place of an identifier is one of the categories. -/
theorem lt_of_place? {categories : List Category} {id : Id} {place : Nat}
    (h : (ofList categories).place? id = some place) : place < categories.length := by
  rw [place?_ofList] at h
  exact (List.findIdx?_eq_some_iff_getElem.mp h).1

/-- A walk from the place of an identifier does not fail, and finds the names of the chain. -/
theorem walk_ofList (l : Ledger) (limit : Nat) (id : Option Id) :
    (ofList l.categories).walk limit (id.bind (ofList l.categories).place?)
      = some ((l.categoryChain limit id).map (·.name)) := by
  induction limit generalizing id with
  | zero => cases id.bind (ofList l.categories).place? <;> rfl
  | succ limit ih =>
      -- the step of the chain, which looks the identifier up, as one that goes by the place
      have hcategory : id.bind l.category?
          = (id.bind (ofList l.categories).place?).bind (l.categories[·]?) := by
        rw [Option.bind_assoc]
        exact congrArg id.bind (funext (category?_eq_bind_place? l))
      rw [categoryChain, hcategory]
      cases hplace : id.bind (ofList l.categories).place? with
      | none => rfl
      | some place =>
          obtain ⟨_, -, hid⟩ := Option.bind_eq_some_iff.mp hplace
          have hlt := lt_of_place? hid
          have hc : l.categories[place]? = some l.categories[place] := List.getElem?_eq_getElem hlt
          rw [walk, getElem?_nodes, hc]
          simp only [Option.bind_eq_bind, Option.bind_some, Option.map_some, ih, hc]
          rfl

/-- The tree gives the names that a ledger gives. -/
theorem path_ofList (l : Ledger) (id : Id) :
    (ofList l.categories).path id = some (l.categoryPath id) := by
  rw [path, size_nodes, categoryPath]
  exact walk_ofList l l.categories.length (some id)

end CategoryTree

/-! ### Climbs to a root -/

/-- Parents lead from the category with the identifier through these categories to a root, which has
no parent or names one that does not exist. -/
inductive ClimbsToRoot (l : Ledger) : Id → List Category → Prop
  | root {id : Id} {c : Category} (hc : IsFirst (·.id = id) l.categories c)
      (htop : ∀ parentId, c.parentId = some parentId → ∀ d ∈ l.categories, d.id ≠ parentId) :
      ClimbsToRoot l id [c]
  | parent {id parentId : Id} {c : Category} {above : List Category}
      (hc : IsFirst (·.id = id) l.categories c) (hparent : c.parentId = some parentId)
      (h : ClimbsToRoot l parentId above) : ClimbsToRoot l id (c :: above)

variable {l : Ledger} {id : Id} {chain : List Category}

theorem category?_eq_none_iff : l.category? id = none ↔ ∀ c ∈ l.categories, c.id ≠ id := by
  simp [category?]

theorem categoryChain_of_unknown (h : ∀ c ∈ l.categories, c.id ≠ id) (limit : Nat) :
    l.categoryChain limit (some id) = [] := by
  cases limit with
  | zero => rfl
  | succ limit => rw [categoryChain, Option.bind_some, category?_eq_none_iff.mpr h]

/-- A walk that may take that many steps comes through all categories of a climb. -/
theorem ClimbsToRoot.categoryChain_of_le (h : l.ClimbsToRoot id chain) {limit : Nat}
    (hlimit : chain.length ≤ limit) : l.categoryChain limit (some id) = chain := by
  induction h generalizing limit with
  | @root id c hc htop =>
      obtain ⟨limit, rfl⟩ := Nat.exists_eq_add_of_le' hlimit
      -- at the top the walk ends by itself, even if steps are left
      have hend : l.categoryChain limit c.parentId = [] := by
        cases hparent : c.parentId with
        | none => cases limit <;> rfl
        | some parentId => exact categoryChain_of_unknown (htop parentId hparent) limit
      rw [List.length_singleton, categoryChain, Option.bind_some, category?_eq_some_iff.mpr hc]
      exact congrArg (c :: ·) hend
  | @parent id parentId c above hc hparent _ ih =>
      obtain ⟨limit, rfl⟩ := Nat.exists_eq_add_of_le' hlimit
      rw [List.length_cons, ← Nat.add_assoc, categoryChain, Option.bind_some,
        category?_eq_some_iff.mpr hc]
      show c :: l.categoryChain (limit + above.length) c.parentId = c :: above
      rw [hparent, ih (Nat.le_add_left _ _)]

/-- The stops of the walk are the categories of a climb, in order. -/
theorem ClimbsToRoot.getElem? (h : l.ClimbsToRoot id chain) (k : Nat) :
    chain[k]? = l.climb k (l.category? id) := by
  rw [← h.categoryChain_of_le (Nat.le_add_right _ (k + 1)), getElem?_categoryChain,
    if_pos (by omega), Option.bind_some]

/-- Where there is a climb to a root, parents lead to an end. -/
theorem ClimbsToRoot.ends (h : l.ClimbsToRoot id chain) : l.Ends id :=
  ⟨chain.length, by rw [← h.getElem?, List.getElem?_eq_none (Nat.le_refl _)]⟩

/-- A climb is at no category twice, and so has no more of them than there are. -/
theorem ClimbsToRoot.length_le (h : l.ClimbsToRoot id chain) :
    chain.length ≤ l.categories.length := by
  rw [← List.getElem?_eq_none_iff, h.getElem?]
  exact h.ends.climb_eq_none (Nat.le_refl _)

/-- The limit of the walk cuts off no category of a climb. -/
theorem ClimbsToRoot.categoryChain_eq (h : l.ClimbsToRoot id chain) :
    l.categoryChain l.categories.length (some id) = chain :=
  h.categoryChain_of_le h.length_le

/-! ### The path -/

/-- **The way to the root is never cut short.** The walk stays within the tree and gives at most as
many names as there are categories. Where parents lead to a root, these are the names of all the
categories on the way, from the first with the identifier to the root. An unknown identifier gives
none. -/
theorem CategoryTree.path_complete (l : Ledger) (id : Id) :
    ∃ names, (CategoryTree.ofList l.categories).path id = some names ∧
      l.categoryPath id = names ∧ names.length ≤ l.categories.length ∧
      (∀ chain, l.ClimbsToRoot id chain → names = chain.map (·.name)) ∧
      ((∀ c ∈ l.categories, c.id ≠ id) → names = []) := by
  refine ⟨l.categoryPath id, CategoryTree.path_ofList l id, rfl, ?_, ?_, ?_⟩
  · rw [categoryPath, List.length_map]
    exact length_categoryChain_le l _ _
  · intro chain h
    rw [categoryPath, h.categoryChain_eq]
  · intro hunknown
    rw [categoryPath, categoryChain_of_unknown hunknown, List.map_nil]

/-- Three categories one above the other, of which the last names a parent that does not exist. Of
the other two, one repeats an identifier and one is its own parent. -/
def danglingTree : Ledger where
  categories := [⟨1, "Coffee", some 2⟩, ⟨4, "Loop", some 4⟩, ⟨2, "Food", some 3⟩,
    ⟨2, "Shadow", some 1⟩, ⟨3, "Spending", some 99⟩]

/-- The walk takes the first of the two categories with the identifier 2. -/
theorem CategoryTree.path_danglingTree :
    danglingTree.ClimbsToRoot 1
        [⟨1, "Coffee", some 2⟩, ⟨2, "Food", some 3⟩, ⟨3, "Spending", some 99⟩] ∧
      (CategoryTree.ofList danglingTree.categories).path 1
        = some ["Coffee", "Food", "Spending"] ∧
      (CategoryTree.ofList danglingTree.categories).path 99 = some [] := by
  have hclimb : danglingTree.ClimbsToRoot 1
      [⟨1, "Coffee", some 2⟩, ⟨2, "Food", some 3⟩, ⟨3, "Spending", some 99⟩] := by
    refine .parent (category?_eq_some_iff.mp rfl) rfl ?_
    refine .parent (category?_eq_some_iff.mp rfl) rfl ?_
    refine .root (category?_eq_some_iff.mp rfl) ?_
    rintro parentId ⟨⟩
    decide
  obtain ⟨names, hpath, -, -, hnames, -⟩ := CategoryTree.path_complete danglingTree 1
  obtain ⟨none, hpath', -, -, -, hnone⟩ := CategoryTree.path_complete danglingTree 99
  refine ⟨hclimb, ?_, ?_⟩
  · rw [hpath, hnames _ hclimb]
    rfl
  · rw [hpath', hnone (by decide)]

end LedgerSearch.Ledger
