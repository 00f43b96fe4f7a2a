import LedgerSearch.Text.PrintTable
import LedgerSearch.Text.WidthTable

/-!
# `LedgerSearch.Text.CharWidth`: the terminal columns of a single character

No column for marks and joiners, two for wide characters, one for the rest, with a handful of
exceptions where the properties of a character mislead about the space that its glyph takes.
-/

set_option autoImplicit false

namespace LedgerSearch.Text

/-- The columns of a character that stands alone. Up to U+00A0 every character takes one, controls
included. -/
def charWidth (c : Char) : Nat :=
  let n := c.toNat
  if n ≤ 0xa0 then 1
  else if n = 0x2d7f then 1
  else if n = 0x115f || n = 0x17a4 then 2
  else if n = 0x17d8 then 3
  else if graphemeExtendRanges.has c || ignoredRanges.has c then 0
  else if wideRanges.has c then 2
  else 1

/-- The character has no column and leaves Arabic letters on its two sides joined. -/
def isJoinTransparent (c : Char) : Bool :=
  charWidth c = 0 && !joinBreakingRanges.has c

end LedgerSearch.Text
