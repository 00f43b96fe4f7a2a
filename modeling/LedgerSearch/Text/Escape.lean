import LedgerSearch.Text.PrintTable

/-!
# `LedgerSearch.Text.Escape`: a text shown on one line between quotes

Where a term or a query is shown to be inspected, it is put between quotes and whatever could
mislead the eye is escaped: the quote and the backslash, the line and column controls, and every
character that is not printable or that combines with the one before it. An apostrophe stands as it
is.
-/

set_option autoImplicit false

namespace LedgerSearch.Text

/-- The character can be shown as it is. ASCII is answered before the tables are asked. -/
def isShown (c : Char) : Bool :=
  if c.toNat < 0x80 then 0x20 ≤ c.toNat && c.toNat < 0x7f
  else !unprintableRanges.has c && !graphemeExtendRanges.has c

/-- The code point in lower-case hexadecimal between braces, without leading zeros. -/
def codePointEscape (c : Char) : List Char :=
  '\\' :: 'u' :: '\x7b' :: (Nat.toDigits 16 c.toNat ++ ['\x7d'])

/-- How a character is written between quotes. -/
def escapeChar (c : Char) : List Char :=
  match c with
  | '\x00' => ['\\', '0']
  | '\t' => ['\\', 't']
  | '\n' => ['\\', 'n']
  | '\r' => ['\\', 'r']
  | '"' => ['\\', '"']
  | '\\' => ['\\', '\\']
  | c => if isShown c then [c] else codePointEscape c

/-- The text between quotes, escaped. -/
def quoted (s : String) : String :=
  String.ofList ('"' :: (s.toList.flatMap escapeChar ++ ['"']))

end LedgerSearch.Text
