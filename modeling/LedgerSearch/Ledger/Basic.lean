/-!
# `LedgerSearch.Ledger.Basic`: transactions and what they refer to

A ledger is a list of transactions with the lists they refer to: accounts and their banks, a tree of
categories, trips and tags. References are identifiers and may lead nowhere. Identifiers may also
repeat within a list; the first record with an identifier is the one that a reference means.

A category names its parent, so the categories form chains that end at a root, at a parent that does
not exist, or in a cycle. `Ledger.categoryPath` follows such a chain and stops at the latest when it
has as many names as there are categories.
-/

set_option autoImplicit false

namespace LedgerSearch.Ledger

/-- The identifier of a record. -/
abbrev Id := Int64

/-- A movement of money on an account. Only what a file leaves out has a default. -/
structure Transaction where
  id : Id := 0
  /-- The booking date, for display only. -/
  date : String := ""
  /-- The signed amount, for display only. -/
  amount : Float := 0
  payee : Option String := none
  counterparty : Option String := none
  description : Option String := none
  categoryId : Option Id := none
  bankAccountId : Option Id := none
  tripId : Option Id := none
  tagIds : List Id := []
deriving DecidableEq, Inhabited

/-- A bank or card issuer. -/
structure Bank where
  id : Id
  name : String
deriving DecidableEq, Inhabited

/-- An account at a bank. -/
structure BankAccount where
  id : Id
  bankId : Id
  name : String
deriving DecidableEq, Inhabited

/-- A node of the category tree; a root has no parent. -/
structure Category where
  id : Id
  name : String
  parentId : Option Id := none
deriving DecidableEq, Inhabited

/-- A trip that groups transactions. -/
structure Trip where
  id : Id
  name : String
deriving DecidableEq, Inhabited

/-- A label chosen by the user. -/
structure Tag where
  id : Id
  name : String
deriving DecidableEq, Inhabited

end LedgerSearch.Ledger

namespace LedgerSearch

/-- Transactions, in the order in which they are shown, and the records they refer to. -/
structure Ledger where
  transactions : List Ledger.Transaction := []
  banks : List Ledger.Bank := []
  bankAccounts : List Ledger.BankAccount := []
  categories : List Ledger.Category := []
  trips : List Ledger.Trip := []
  tags : List Ledger.Tag := []
deriving DecidableEq, Inhabited

namespace Ledger

/-! ### Following references -/

/-- The bank with the identifier. -/
def bank? (l : Ledger) (id : Id) : Option Bank :=
  l.banks.find? (·.id = id)

/-- The account with the identifier. -/
def bankAccount? (l : Ledger) (id : Id) : Option BankAccount :=
  l.bankAccounts.find? (·.id = id)

/-- The category with the identifier. -/
def category? (l : Ledger) (id : Id) : Option Category :=
  l.categories.find? (·.id = id)

/-- The trip with the identifier. -/
def trip? (l : Ledger) (id : Id) : Option Trip :=
  l.trips.find? (·.id = id)

/-- The tag with the identifier. -/
def tag? (l : Ledger) (id : Id) : Option Tag :=
  l.tags.find? (·.id = id)

/-- At most `limit` categories of the chain that starts at the category with the identifier. -/
def categoryChain (l : Ledger) : (limit : Nat) → (id : Option Id) → List Category
  | 0, _ => []
  | limit + 1, id =>
    match id.bind l.category? with
    | none => []
    | some category => category :: l.categoryChain limit category.parentId

/-- The names on the way from a category to its root, its own name first. A cycle is followed until
there are as many names as categories. -/
def categoryPath (l : Ledger) (id : Id) : List String :=
  (l.categoryChain l.categories.length (some id)).map (·.name)

end Ledger

end LedgerSearch
