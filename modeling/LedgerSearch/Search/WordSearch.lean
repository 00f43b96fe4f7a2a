import LedgerSearch.Query.Token
import LedgerSearch.Search.Document
import LedgerSearch.Text.Blank

/-!
# `LedgerSearch.Search.WordSearch`: the search that needs no grammar

When a query is no sentence of the language, its words can still be searched for: every word has to
occur somewhere in the transaction. Quotes and parentheses are taken out of the words first, and
words that are then empty or spell an operator are dropped. So a word such as `(AND)` does not
count.
-/

set_option autoImplicit false

namespace LedgerSearch.Search

open LedgerSearch.Ledger (Transaction)

/-- The character is punctuation of the query language. -/
def isQueryMark (c : Char) : Bool :=
  c == '"' || c == '(' || c == ')'

/-- The words of a query that the word search looks for, in lower case. -/
def wordTerms (query : String) : List String :=
  (((Text.words query).map fun word =>
    String.ofList (word.toList.filter fun c => !isQueryMark c)).filter fun word =>
      !word.isEmpty && !Query.Token.isKeyword word).map Text.lower

/-- The transactions in which every word occurs, in ledger order; all of them when there is no word
to look for. -/
def wordSearch (l : Ledger) (query : String) : List Transaction :=
  let terms := wordTerms query
  if terms.isEmpty then l.transactions
  else l.transactions.filter fun t => terms.all (project l t).contains

end LedgerSearch.Search
