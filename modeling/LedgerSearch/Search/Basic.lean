import LedgerSearch.Query.Parser
import LedgerSearch.Search.Match
import LedgerSearch.Search.WordSearch

/-!
# `LedgerSearch.Search.Basic`: searching a ledger

`search` gives the transactions that satisfy a query, in ledger order, or the syntax error of the
query. `searchOrWords` always gives transactions: where the query is at fault it keeps the error and
searches for the plain words of the query instead.
-/

set_option autoImplicit false

namespace LedgerSearch.Search

open LedgerSearch.Ledger (Transaction)
open LedgerSearch.Query (Expr ParseOptions SyntaxError)

/-- The transactions that satisfy the query. -/
def search (l : Ledger) (query : String) (options : ParseOptions) :
    Except SyntaxError (List Transaction) :=
  match Query.parse query options with
  | .error e => .error e
  | .ok e =>
    let folded := e.foldCase
    if folded.isMatchAll then .ok l.transactions
    else .ok (l.transactions.filter fun t => (project l t).satisfies folded)

/-- The result of a search that does not fail. -/
structure Outcome where
  transactions : List Transaction
  /-- The fault of the query, when the transactions come from the word search. -/
  syntaxError : Option SyntaxError := none

/-- The transactions come from the word search. -/
def Outcome.isFallback (o : Outcome) : Bool :=
  o.syntaxError.isSome

/-- The transactions that satisfy the query, or those in which its words occur when the query is at
fault. -/
def searchOrWords (l : Ledger) (query : String) (options : ParseOptions) : Outcome :=
  match search l query options with
  | .ok transactions => ⟨transactions, none⟩
  | .error e => ⟨wordSearch l query, some e⟩

/-- The expression whose terms explain the result of a search: the query itself, or its words joined
by `AND` when they were searched for (`fallback`). -/
def explanation (query : String) (options : ParseOptions) (fallback : Bool) : Expr :=
  let words :=
    match (wordTerms query).map Expr.term with
    | [] => .matchAll
    | first :: rest => rest.foldl .and first
  if fallback then words
  else
    match Query.parse query options with
    | .ok e => e
    | .error _ => words

end LedgerSearch.Search
