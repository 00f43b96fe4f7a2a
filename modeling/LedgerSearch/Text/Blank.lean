import LedgerSearch.Text.Ranges

/-!
# `LedgerSearch.Text.Blank`: white space, words and trimming

Blank means Unicode's `White_Space` property, 25 characters that reach well beyond ASCII: the
no-break space and the ideographic space separate words, the zero-width space does not. The lexer,
the plain word search and the text of a syntax error all use this one notion.
-/

set_option autoImplicit false

namespace LedgerSearch.Text

/-- The characters with the property `White_Space`. -/
def blankRanges : CodeRanges :=
  [(0x9, 0xd), (0x20, 0x20), (0x85, 0x85), (0xa0, 0xa0), (0x1680, 0x1680), (0x2000, 0x200a),
    (0x2028, 0x2029), (0x202f, 0x202f), (0x205f, 0x205f), (0x3000, 0x3000)]

/-- The character separates words. -/
def isBlank (c : Char) : Bool :=
  blankRanges.has c

/-- The maximal runs of characters that are not blank, in order. -/
def words (s : String) : List String :=
  ((s.toList.splitOnP isBlank).filter fun word => !word.isEmpty).map String.ofList

/-- The text without the blanks at its two ends. -/
def trim (cs : List Char) : List Char :=
  ((cs.dropWhile isBlank).reverse.dropWhile isBlank).reverse

end LedgerSearch.Text
