/-!
# `LedgerSearch.Text.Bytes`: positions counted in bytes of UTF-8

Positions in a query are byte offsets into its UTF-8 form. A text is cut at such an offset only
where a character begins.
-/

set_option autoImplicit false

namespace LedgerSearch.Text

/-- How many bytes the characters take in UTF-8. -/
def byteLength : List Char → Nat
  | [] => 0
  | c :: cs => c.utf8Size + byteLength cs

/-- The part before and the part from the given byte offset on; nothing when the offset lies past
the end or inside a character. -/
def splitAtByte (cs : List Char) (offset : Nat) : Option (List Char × List Char) :=
  match cs, offset with
  | cs, 0 => some ([], cs)
  | [], _ + 1 => none
  | c :: cs, offset =>
    if c.utf8Size ≤ offset then
      (splitAtByte cs (offset - c.utf8Size)).map fun parts => (c :: parts.1, parts.2)
    else none

end LedgerSearch.Text
