import LedgerSearch.Cli.Style
import LedgerSearch.Cli.Table
import LedgerSearch.Decimal.Places
import LedgerSearch.Json.Printer
import LedgerSearch.Ledger.Json
import LedgerSearch.Search.Basic

/-!
# `LedgerSearch.Cli.Report`: how search results are shown

A report is shown as a table for people or as JSON for programs. Both resolve the references of a
transaction to names, and both name the fields that speak for a match when an explanation is wanted.
The names come from the document of the transaction, so an empty name is shown as none.
-/

set_option autoImplicit false

namespace LedgerSearch.Cli

open LedgerSearch.Json (Value)
open LedgerSearch.Ledger (Transaction)
open LedgerSearch.Query (Expr SyntaxError)
open LedgerSearch.Search (Document project matchedFields)

/-- The result of a search, ready to be shown. -/
structure Report where
  query : String
  ledger : Ledger
  outcome : Search.Outcome
  /-- The expression that explains the result, when an explanation is wanted. -/
  explanation : Option Expr

/-! ### Names of a transaction -/

/-- The first text of a field. -/
def firstText (d : Document) (field : Search.Field) : Option String :=
  (d.texts field).head?

/-- The categories, root first. -/
def categoryNames (d : Document) : List String :=
  (d.texts .category).reverse

/-- The payee, or the counterparty when there is none. -/
def party (d : Document) : String :=
  ((firstText d .payee).or (firstText d .counterparty)).getD ""

/-- The bank and the account, as far as they are known. -/
def accountLabel (d : Document) : String :=
  match firstText d .bank, firstText d .account with
  | some bank, some account => bank ++ " / " ++ account
  | bank, account => (account.or bank).getD ""

namespace Report

/-! ### JSON -/

/-- A syntax error as JSON. -/
def errorToJson (e : SyntaxError) : Value :=
  .ofFields
    [("message", .text e.message), ("position", .number (.ofNat e.position)),
      ("near", .text e.near), ("hint", .ofOption .text e.hint)]

/-- A transaction with its names as JSON. -/
def transactionToJson (r : Report) (t : Transaction) : Value :=
  let d := project r.ledger t
  let texts (ss : List String) : Value := .array (ss.map .text)
  let matched :=
    match r.explanation with
    | some e => [("matched_fields", texts ((matchedFields e d).map Search.Field.name))]
    | none => []
  .ofFields
    (t.toFields
      ++ [("category_path", texts (categoryNames d)),
        ("bank", .ofOption .text (firstText d .bank)),
        ("account", .ofOption .text (firstText d .account)),
        ("trip", .ofOption .text (firstText d .trip)),
        ("tags", texts (d.texts .tag))]
      ++ matched)

/-- The report as JSON. -/
def toJson (r : Report) : Value :=
  .ofFields
    [("query", .text r.query), ("fallback", .bool r.outcome.isFallback),
      ("error", .ofOption errorToJson r.outcome.syntaxError),
      ("total_matches", .number (.ofNat r.outcome.transactions.length)),
      ("transactions", .array (r.outcome.transactions.map r.transactionToJson))]

/-! ### Tables -/

/-- An amount as the table shows it, with two places. -/
def amountText (amount : Float) : String :=
  Decimal.fixedPlaces 2 (.ofFloat amount)

/-- The header of the table. -/
def header (r : Report) : List Cell :=
  (["Date", "Amount", "Payee", "Category", "Account", "Tags"]
    ++ (if r.explanation.isSome then ["Matched"] else [])).map fun title => ⟨title, .left⟩

/-- The row of a transaction. -/
def row (r : Report) (t : Transaction) : List Cell :=
  let d := project r.ledger t
  let list (names : List String) : Cell := ⟨String.intercalate ", " names, .left⟩
  let matched :=
    match r.explanation with
    | some e => [list ((matchedFields e d).map Search.Field.name)]
    | none => []
  [⟨t.date, .left⟩, ⟨amountText t.amount, .right⟩, ⟨party d, .left⟩,
    ⟨String.intercalate " > " (categoryNames d), .left⟩, ⟨accountLabel d, .left⟩,
    list (d.texts .tag)] ++ matched

/-- The table of the transactions. -/
def table (r : Report) : Table where
  header := r.header
  rows := r.outcome.transactions.map r.row

/-- The report for people, line by line. -/
def lines (r : Report) : List String :=
  if r.outcome.transactions.isEmpty then [Style.dim.apply "No matching transactions."]
  else
    r.table.lines
      ++ [Style.dim.apply (toString r.outcome.transactions.length ++ " of "
        ++ toString r.ledger.transactions.length ++ " transactions")]

end Report

end LedgerSearch.Cli
