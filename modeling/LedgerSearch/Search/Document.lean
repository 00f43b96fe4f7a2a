import LedgerSearch.Ledger.Basic
import LedgerSearch.Text.Contains
import LedgerSearch.Text.LowerCase

/-!
# `LedgerSearch.Search.Document`: the searchable texts of a transaction

Search does not look at a transaction itself but at its document: the texts of the transaction and
the names of everything it refers to, each marked with the field it comes from. References that lead
nowhere and empty texts leave no fragment.
-/

set_option autoImplicit false

namespace LedgerSearch.Search

open LedgerSearch.Ledger (Transaction)

/-- Where a searchable text comes from. -/
inductive Field
  | payee | counterparty | description
  /-- The category of the transaction or one above it. -/
  | category
  | bank | account | trip | tag
deriving DecidableEq, Repr, Inhabited

namespace Field

/-- All fields, in the order in which they are shown. -/
def all : List Field :=
  [payee, counterparty, description, category, bank, account, trip, tag]

/-- The name of the field. -/
def name : Field → String
  | payee => "payee"
  | counterparty => "counterparty"
  | description => "description"
  | category => "category"
  | bank => "bank"
  | account => "account"
  | trip => "trip"
  | tag => "tag"

end Field

/-- A searchable text with the field it comes from. -/
structure Fragment where
  field : Field
  text : String
deriving DecidableEq, Repr, Inhabited

namespace Fragment

/-- The text in the form in which it is compared. -/
def folded (f : Fragment) : String :=
  Text.lower f.text

/-- The text contains `needle`, which has to be in lower case already. -/
def contains (f : Fragment) (needle : String) : Bool :=
  Text.contains f.folded needle

end Fragment

/-- The searchable texts of a transaction, in order. -/
structure Document where
  fragments : List Fragment := []
deriving DecidableEq, Repr, Inhabited

namespace Document

/-- The texts of one field, in order. -/
def texts (d : Document) (field : Field) : List String :=
  (d.fragments.filter (·.field = field)).map (·.text)

/-- A fragment contains `needle`, which has to be in lower case already. The empty needle is
contained in every document, also in one without fragments. -/
def contains (d : Document) (needle : String) : Bool :=
  needle.isEmpty || d.fragments.any (·.contains needle)

end Document

/-- The names of the account of a transaction and, before it, of its bank, as far as they exist. -/
def accountFragments (l : Ledger) (t : Transaction) : List Fragment :=
  match t.bankAccountId.bind l.bankAccount? with
  | none => []
  | some account =>
    match l.bank? account.bankId with
    | none => [⟨.account, account.name⟩]
    | some bank => [⟨.bank, bank.name⟩, ⟨.account, account.name⟩]

/-- The document of a transaction. -/
def project (l : Ledger) (t : Transaction) : Document :=
  let fragments (field : Field) (texts : List String) : List Fragment := texts.map (⟨field, ·⟩)
  let all :=
    fragments .payee t.payee.toList
      ++ fragments .counterparty t.counterparty.toList
      ++ fragments .description t.description.toList
      ++ fragments .category (t.categoryId.toList.flatMap l.categoryPath)
      ++ accountFragments l t
      ++ fragments .trip ((t.tripId.bind l.trip?).toList.map (·.name))
      ++ fragments .tag ((t.tagIds.filterMap l.tag?).map (·.name))
  ⟨all.filter fun f => !f.text.isEmpty⟩

end LedgerSearch.Search
