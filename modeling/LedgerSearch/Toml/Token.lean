import LedgerSearch.Toml.Text

/-!
# `LedgerSearch.Toml.Token`: the tokens of a TOML text

A TOML text is read in two steps, first into tokens and then into statements. Spaces are tokens of
their own, since what is written without quotes may be cut at a point and has to be put together
again. Comments leave no token. A mark at the front of the file that only says how it is encoded is
no part of the text.
-/

set_option autoImplicit false

namespace LedgerSearch.Toml

/-- A token of a TOML text. -/
inductive Token
  | dot | equals | comma
  | openBracket | closeBracket
  | openBrace | closeBrace
  /-- Spaces and tabs, as they are written. -/
  | space (cs : List Char)
  | lineBreak
  | quoted (q : Quoted)
  /-- Characters without quotes, up to the next mark or blank. -/
  | bare (cs : List Char)
deriving DecidableEq, Repr

/-- The character ends what is written without quotes. -/
def isMark (c : Char) : Bool :=
  c = ' ' || c = '\t' || c = '\n' || c = '\r' || c = '#' || c = '.' || c = '=' || c = ','
    || c = '[' || c = ']' || c = '\x7b' || c = '\x7d' || c = '"' || c = '\''

/-- Spaces and tabs. -/
def isSpace (c : Char) : Bool :=
  c = ' ' || c = '\t'

/-- The token that a mark of one character is. -/
def Token.ofMark? (c : Char) : Option Token :=
  if c = '.' then some .dot
  else if c = '=' then some .equals
  else if c = ',' then some .comma
  else if c = '[' then some .openBracket
  else if c = ']' then some .closeBracket
  else if c = '\x7b' then some .openBrace
  else if c = '\x7d' then some .closeBrace
  else if c = '\n' then some .lineBreak
  else none

/-- The tokens of a text; nothing when some part of it is none. -/
def tokens (cs : List Char) : Option (List Token) :=
  match cs with
  | [] => some []
  | c :: cs =>
    if c = '"' ∨ c = '\'' then
      match h : readQuoted (c :: cs) with
      | none => none
      | some (q, rest) =>
        have := readQuoted_length_lt h
        (tokens rest).map (.quoted q :: ·)
    else if c = '#' then
      have : (cs.dropWhile isTextChar).length ≤ cs.length := (List.dropWhile_sublist _).length_le
      tokens (cs.dropWhile isTextChar)
    else if c = '\r' then
      match cs with
      | '\n' :: cs => (tokens cs).map (.lineBreak :: ·)
      | _ => none
    else if isSpace c then
      have : (cs.dropWhile isSpace).length ≤ cs.length := (List.dropWhile_sublist _).length_le
      (tokens (cs.dropWhile isSpace)).map (.space (c :: cs.takeWhile isSpace) :: ·)
    else
      match Token.ofMark? c with
      | some t => (tokens cs).map (t :: ·)
      | none =>
        have : (cs.dropWhile fun c => !isMark c).length ≤ cs.length :=
          (List.dropWhile_sublist _).length_le
        (tokens (cs.dropWhile fun c => !isMark c)).map
          (.bare (c :: cs.takeWhile fun c => !isMark c) :: ·)
termination_by cs.length
decreasing_by all_goals simp only [List.length_cons] at *; omega

/-- The text without an encoding mark at its front. -/
def dropEncodingMark : List Char → List Char
  | '\ufeff' :: cs => cs
  | cs => cs

end LedgerSearch.Toml
