import LedgerSearch.Json.Reader
import LedgerSearch.Ledger.Basic

/-!
# `LedgerSearch.Ledger.Json`: ledgers as JSON

A ledger file is one JSON object with a list for each kind of record, every list optional. A record
is an object, or an array of its fields in their order. The rules are the same for the ledger and
all records:

* an unknown key is ignored with its value, whatever that is; a known key may not repeat;
* an array may leave fields out at its end and may not be longer than the fields;
* only an optional field may be `null`;
* an identifier is an integer of 64 bits, and an amount is any number in range.

Of a transaction every field may be absent, of a category its parent; other records are complete.
-/

set_option autoImplicit false

namespace LedgerSearch.Ledger

open LedgerSearch.Json (Value Literal Number)

/-! ### Reading records -/

/-- The values of the named fields of a record, in order; nothing when the value is no record. -/
def recordFields (names : List String) : Value → Option (List (Option Value))
  | .object members =>
    if members.any (·.1.isNone) then none
    else if names.any fun name => 1 < members.countP (·.1 == some name) then none
    else some (names.map fun name => (members.find? (·.1 == some name)).map (·.2))
  | .array items =>
    if names.length < items.length then none
    else some (items.map some ++ List.replicate (names.length - items.length) none)
  | _ => none

/-- A field that has to be there. -/
def required {α : Type} (read : Value → Option α) (field : Option Value) : Option α :=
  field.bind read

/-- A field that takes a default when it is not there. -/
def withDefault {α : Type} (default : α) (read : Value → Option α) : Option Value → Option α
  | none => some default
  | some value => read value

/-- A value that may be `null`. -/
def readOption {α : Type} (read : Value → Option α) : Value → Option (Option α)
  | .null => some none
  | value => (read value).map some

/-- An array of values of one kind. -/
def readList {α : Type} (read : Value → Option α) : Value → Option (List α)
  | .array items => items.mapM read
  | _ => none

def readText : Value → Option String
  | .string literal => literal
  | _ => none

def readId : Value → Option Id
  | .number n => n.toInt64?
  | _ => none

def readAmount : Value → Option Float
  | .number n => n.toFloat?
  | _ => none

/-- The fields of a transaction, in their order. -/
def Transaction.fieldNames : List String :=
  ["id", "date", "amount", "payee", "counterparty", "description", "category_id",
    "bank_account_id", "trip_id", "tag_ids"]

def readTransaction (value : Value) : Option Transaction := do
  match ← recordFields Transaction.fieldNames value with
  | [id, date, amount, payee, counterparty, description, categoryId, bankAccountId, tripId,
      tagIds] =>
    return {
      id := ← withDefault 0 readId id
      date := ← withDefault "" readText date
      amount := ← withDefault 0 readAmount amount
      payee := ← withDefault none (readOption readText) payee
      counterparty := ← withDefault none (readOption readText) counterparty
      description := ← withDefault none (readOption readText) description
      categoryId := ← withDefault none (readOption readId) categoryId
      bankAccountId := ← withDefault none (readOption readId) bankAccountId
      tripId := ← withDefault none (readOption readId) tripId
      tagIds := ← withDefault [] (readList readId) tagIds }
  | _ => none

def readBank (value : Value) : Option Bank := do
  match ← recordFields ["id", "name"] value with
  | [id, name] => return ⟨← required readId id, ← required readText name⟩
  | _ => none

def readBankAccount (value : Value) : Option BankAccount := do
  match ← recordFields ["id", "bank_id", "name"] value with
  | [id, bankId, name] =>
    return ⟨← required readId id, ← required readId bankId, ← required readText name⟩
  | _ => none

def readCategory (value : Value) : Option Category := do
  match ← recordFields ["id", "name", "parent_id"] value with
  | [id, name, parentId] =>
    return ⟨← required readId id, ← required readText name,
      ← withDefault none (readOption readId) parentId⟩
  | _ => none

def readTrip (value : Value) : Option Trip := do
  match ← recordFields ["id", "name"] value with
  | [id, name] => return ⟨← required readId id, ← required readText name⟩
  | _ => none

def readTag (value : Value) : Option Tag := do
  match ← recordFields ["id", "name"] value with
  | [id, name] => return ⟨← required readId id, ← required readText name⟩
  | _ => none

/-- The lists of a ledger, in their order. -/
def fieldNames : List String :=
  ["transactions", "banks", "bank_accounts", "categories", "trips", "tags"]

/-- The ledger that a JSON value describes. -/
def ofJson (value : Value) : Option Ledger := do
  match ← recordFields fieldNames value with
  | [transactions, banks, bankAccounts, categories, trips, tags] =>
    return {
      transactions := ← withDefault [] (readList readTransaction) transactions
      banks := ← withDefault [] (readList readBank) banks
      bankAccounts := ← withDefault [] (readList readBankAccount) bankAccounts
      categories := ← withDefault [] (readList readCategory) categories
      trips := ← withDefault [] (readList readTrip) trips
      tags := ← withDefault [] (readList readTag) tags }
  | _ => none

/-- The ledger that the text of a ledger file describes; nothing when it describes none. -/
def parse (text : String) : Option Ledger :=
  (Json.parse text).bind ofJson

/-! ### Writing records -/

/-- The JSON form of an identifier. -/
def Id.toJson (id : Id) : Value :=
  .number (.ofInt id.toInt)

/-- The fields of a transaction with their values, absent ones as `null`. -/
def Transaction.toFields (t : Transaction) : List (String × Value) :=
  [("id", Id.toJson t.id), ("date", .text t.date), ("amount", .number (.ofFloat t.amount)),
    ("payee", .ofOption .text t.payee), ("counterparty", .ofOption .text t.counterparty),
    ("description", .ofOption .text t.description),
    ("category_id", .ofOption Id.toJson t.categoryId),
    ("bank_account_id", .ofOption Id.toJson t.bankAccountId),
    ("trip_id", .ofOption Id.toJson t.tripId), ("tag_ids", .array (t.tagIds.map Id.toJson))]

/-- The JSON form of a ledger, with all lists and all fields. -/
def toJson (l : Ledger) : Value :=
  .ofFields
    [("transactions", .array (l.transactions.map fun t => .ofFields t.toFields)),
      ("banks", .array (l.banks.map fun b =>
        .ofFields [("id", Id.toJson b.id), ("name", .text b.name)])),
      ("bank_accounts", .array (l.bankAccounts.map fun a =>
        .ofFields
          [("id", Id.toJson a.id), ("bank_id", Id.toJson a.bankId), ("name", .text a.name)])),
      ("categories", .array (l.categories.map fun c =>
        .ofFields [("id", Id.toJson c.id), ("name", .text c.name),
          ("parent_id", .ofOption Id.toJson c.parentId)])),
      ("trips", .array (l.trips.map fun t =>
        .ofFields [("id", Id.toJson t.id), ("name", .text t.name)])),
      ("tags", .array (l.tags.map fun t =>
        .ofFields [("id", Id.toJson t.id), ("name", .text t.name)]))]

end LedgerSearch.Ledger
