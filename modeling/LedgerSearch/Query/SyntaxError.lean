import LedgerSearch.Text.Blank
import LedgerSearch.Text.Bytes

/-!
# `LedgerSearch.Query.SyntaxError`: what is wrong with a query, and where

Only the parser finds a query at fault. An error names its cause and the token it arises at, by the
token's index and by its byte offset, and keeps the query, so that it can show the place with a
caret under it.

An error can also be built by hand with any position. Where the position is past the end of the
query or inside a character, nothing is near it, and the caret stands after the whole query.
-/

set_option autoImplicit false

namespace LedgerSearch.Query

/-- The cause of a syntax error. -/
inductive SyntaxErrorKind
  /-- The query ended where an operand has to stand; `after` describes the token before. -/
  | unexpectedEnd (after : String)
  /-- A closing parenthesis that closes nothing. -/
  | unmatchedClose
  /-- An opening parenthesis that is never closed. -/
  | unclosedOpen
  /-- A token that cannot stand where an operand has to. -/
  | unexpectedToken (found : String)
  /-- Two operands side by side where adjacency does not join them. -/
  | missingOperator (found : String)
  /-- More parentheses and negations open together than the parser takes. -/
  | tooDeep (limit : Nat)
deriving DecidableEq, Repr

/-- A syntax error in a query. -/
structure SyntaxError where
  kind : SyntaxErrorKind
  query : String
  /-- The index of the offending token among the tokens of the query. -/
  tokenIndex : Nat
  /-- The byte offset of the offending token. -/
  position : Nat
deriving DecidableEq, Repr

/-- The cause in words. -/
def SyntaxErrorKind.message : SyntaxErrorKind → String
  | unexpectedEnd after => "unexpected end of query, expected a term after " ++ after
  | unmatchedClose => "unmatched closing parenthesis"
  | unclosedOpen => "unclosed opening parenthesis"
  | unexpectedToken found => "unexpected " ++ found ++ ", expected a term"
  | missingOperator found => "missing operator before " ++ found
  | tooDeep limit => "query is nested too deeply (limit " ++ toString limit ++ ")"

/-- What the user could do about it, for the causes with a common remedy. -/
def SyntaxErrorKind.hint : SyntaxErrorKind → Option String
  | unclosedOpen => some "Add a closing parenthesis ) to match the opening one"
  | unmatchedClose => some "Remove the extra ) or add a matching opening parenthesis"
  | unexpectedEnd _ =>
    some "AND, OR and NOT need a term after them, e.g. 'coffee AND NOT costa'"
  | unexpectedToken found =>
    if found = "AND" ∨ found = "OR" then
      some "AND and OR need terms on both sides, e.g. 'hsbc OR amex'"
    else none
  | missingOperator _ => some "Join terms with AND or OR, e.g. 'tesco AND food'"
  | tooDeep _ => none

namespace SyntaxError

/-- The cause in words, without the place. -/
def message (e : SyntaxError) : String :=
  e.kind.message

/-- A suggested remedy. -/
def hint (e : SyntaxError) : Option String :=
  e.kind.hint

/-- The query from the offending token on, without blanks at its ends. -/
def near (e : SyntaxError) : String :=
  match Text.splitAtByte e.query.toList (min e.position e.query.utf8ByteSize) with
  | some (_, rest) => String.ofList (Text.trim rest)
  | none => ""

/-- The column of the caret: the number of characters before the offending token. -/
def caretColumn (e : SyntaxError) : Nat :=
  match Text.splitAtByte e.query.toList e.position with
  | some (before, _) => before.length
  | none => e.query.toList.length

/-- The error as it is shown: the cause, the query, a caret under the offending token and the
remedy. -/
def render (e : SyntaxError) : String :=
  "query syntax error: " ++ e.message ++ "\n  " ++ e.query ++ "\n  "
    ++ String.ofList (List.replicate e.caretColumn ' ') ++ "^"
    ++ (match e.hint with
      | some hint => "\nhint: " ++ hint
      | none => "")

end SyntaxError

end LedgerSearch.Query
