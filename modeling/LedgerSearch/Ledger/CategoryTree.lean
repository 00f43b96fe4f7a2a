import LedgerSearch.Ledger.Basic

/-!
# `LedgerSearch.Ledger.CategoryTree`: categories that know the place of their parent

`Ledger.categoryPath` looks a parent up by its identifier at every step. A `CategoryTree` does so
beforehand: it keeps the categories in their order, each with the place of its parent, and an index
of the places by identifier. A walk to the root then goes from place to place.

A place is a number, and nothing in the types keeps it within the tree. So a walk can fail, when it
is sent to a place that the tree does not have. A tree that was built by `CategoryTree.ofList` sends
no walk to such a place, and its walks give the names of `Ledger.categoryPath`
(`CategoryTree.walk_ofList` in `LedgerSearch.Proofs.Ledger.CategoryTree`).
-/

set_option autoImplicit false

namespace LedgerSearch.Ledger

/-- A category as a walk sees it. -/
structure CategoryNode where
  name : String
  /-- The place of the parent, if there is one. -/
  parent : Option Nat := none
deriving DecidableEq, Repr, Inhabited

/-- Categories with the places of their parents. -/
structure CategoryTree where
  nodes : Array CategoryNode := #[]
  /-- The places by identifier. -/
  index : List (Id × Nat) := []
deriving DecidableEq, Repr, Inhabited

namespace CategoryTree

/-- The index with the place of one more category. An identifier that has a place keeps it. -/
def addPlace (index : List (Id × Nat)) (entry : Category × Nat) : List (Id × Nat) :=
  if (index.lookup entry.1.id).isSome then index else (entry.1.id, entry.2) :: index

/-- The tree of a list of categories. A parent that does not exist makes a category a root. -/
def ofList (categories : List Category) : CategoryTree :=
  let index := categories.zipIdx.foldl addPlace []
  let node (c : Category) : CategoryNode := ⟨c.name, c.parentId.bind (List.lookup · index)⟩
  { nodes := (categories.map node).toArray, index }

/-- The place of the category that the identifier means. -/
def place? (tree : CategoryTree) (id : Id) : Option Nat :=
  tree.index.lookup id

/-- At most `limit` names on the way from a place to the root. Nothing, when the way leads to a
place that the tree does not have. -/
def walk (tree : CategoryTree) : (limit : Nat) → (place : Option Nat) → Option (List String)
  | _, none => some []
  | 0, some _ => some []
  | limit + 1, some place => do
    let node ← tree.nodes[place]?
    return node.name :: (← tree.walk limit node.parent)

/-- The names on the way from the category with the identifier to its root, its own name first. -/
def path (tree : CategoryTree) (id : Id) : Option (List String) :=
  tree.walk tree.nodes.size (tree.place? id)

end CategoryTree

end LedgerSearch.Ledger
