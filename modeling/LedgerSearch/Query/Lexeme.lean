import LedgerSearch.Query.Token
import LedgerSearch.Text.Blank
import LedgerSearch.Text.Bytes

/-!
# `LedgerSearch.Query.Lexeme`: from a query to its tokens

Every text has a row of tokens; whatever is wrong with a query is for the parser to say. Blanks
separate tokens and are dropped. A phrase runs from a quote to the next one, or to the end of the
query when there is no next one. A word runs as far as no blank, parenthesis or quote stops it.

Each token carries the byte offset at which it begins, and the row always ends with the token for
the end of the query, at the query's byte length.
-/

set_option autoImplicit false

namespace LedgerSearch.Query

open LedgerSearch.Text

/-- A token and the byte offset in the query at which it begins. -/
structure Lexeme where
  token : Token
  offset : Nat
deriving DecidableEq, Repr, Inhabited

/-- The character can stand in a word. -/
def isWordChar (c : Char) : Bool :=
  !(isBlank c || c == '(' || c == ')' || c == '"')

/-- The tokens of the rest of a query that begins at the given byte offset. -/
def lexFrom (offset : Nat) (cs : List Char) : List Lexeme :=
  match cs with
  | [] => [⟨.endOfQuery, offset⟩]
  | c :: cs =>
    if isBlank c then lexFrom (offset + c.utf8Size) cs
    else if c = '(' then ⟨.openParen, offset⟩ :: lexFrom (offset + 1) cs
    else if c = ')' then ⟨.closeParen, offset⟩ :: lexFrom (offset + 1) cs
    else if c = '"' then
      let text := cs.takeWhile (· != '"')
      let token := Token.phrase (String.ofList text)
      let stop := offset + 1 + byteLength text
      match h : cs.dropWhile (· != '"') with
      | [] => [⟨token, offset⟩, ⟨.endOfQuery, stop⟩]
      | _ :: rest =>
        have : rest.length < cs.length := by
          have := (List.dropWhile_sublist (· != '"') (l := cs)).length_le
          simp only [h, List.length_cons] at this
          omega
        ⟨token, offset⟩ :: lexFrom (stop + 1) rest
    else
      let word := c :: cs.takeWhile isWordChar
      have : (cs.dropWhile isWordChar).length ≤ cs.length :=
        (List.dropWhile_sublist isWordChar).length_le
      ⟨.ofWord (String.ofList word), offset⟩
        :: lexFrom (offset + byteLength word) (cs.dropWhile isWordChar)
termination_by cs.length

/-- The tokens of a query. -/
def lex (query : String) : List Lexeme :=
  lexFrom 0 query.toList

end LedgerSearch.Query
