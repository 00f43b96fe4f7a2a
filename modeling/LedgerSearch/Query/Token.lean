/-!
# `LedgerSearch.Query.Token`: the tokens of the query language

A query is a row of words, phrases, operators and parentheses. An operator is a word, so a word
becomes one only by its spelling: `AND`, `OR` and `NOT` in any mixture of ASCII capitals and small
letters. Between quotes the same spellings are ordinary text.
-/

set_option autoImplicit false

namespace LedgerSearch.Query

/-- A token of the query language. -/
inductive Token
  /-- A bare word to search for. -/
  | term (text : String)
  /-- A quoted phrase, without its quotes. -/
  | phrase (text : String)
  | and
  | or
  | not
  | openParen
  | closeParen
  /-- The end of the query. -/
  | endOfQuery
deriving DecidableEq, Repr, Inhabited

namespace Token

/-- The token can be the first of an operand. -/
def startsOperand : Token → Bool
  | term _ | phrase _ | not | openParen => true
  | _ => false

/-- The token as an error message names it. -/
def describe : Token → String
  | term text => "term '" ++ text ++ "'"
  | phrase text => "phrase \"" ++ text ++ "\""
  | and => "AND"
  | or => "OR"
  | not => "NOT"
  | openParen => "'('"
  | closeParen => "')'"
  | endOfQuery => "end of query"

/-- The operator that a word spells, if it spells one. Only ASCII letters have two cases here. -/
def keyword? (word : String) : Option Token :=
  let capitals := word.toList.map Char.toUpper
  if capitals = ['A', 'N', 'D'] then some and
  else if capitals = ['O', 'R'] then some or
  else if capitals = ['N', 'O', 'T'] then some not
  else none

/-- The word spells an operator. -/
def isKeyword (word : String) : Bool :=
  (keyword? word).isSome

/-- The token of an unquoted word. -/
def ofWord (word : String) : Token :=
  (keyword? word).getD (term word)

end Token

end LedgerSearch.Query
