import LedgerSearch.Text.Emoji
import LedgerSearch.Text.Ligature

/-!
# `LedgerSearch.Text.Width`: the columns that a text takes on a terminal

A text is as wide as its characters together, except where several characters make one glyph: a
variation selector and its base, a ligature, an emoji sequence. Which of them a character belongs to
shows only behind it, so the text is read from its end, and `Reading` holds what has been read.
-/

set_option autoImplicit false

namespace LedgerSearch.Text

/-- A variation selector with an effect on the width of the character before it. -/
inductive Selector
  /-- U+FE01: a quotation mark stands in a wide cell. -/
  | fullwidth
  /-- U+FE0E: an emoji is shown as text. -/
  | text
  /-- U+FE0F: an emoji is shown as a picture. -/
  | picture
deriving DecidableEq, Repr

/-- The character is a variation selector that matters here. -/
def Selector.ofChar? (c : Char) : Option Selector :=
  match c.toNat with
  | 0xfe01 => some .fullwidth
  | 0xfe0e => some .text
  | 0xfe0f => some .picture
  | _ => none

/-- The character is one that the selector changes. -/
def Selector.hasBase (selector : Selector) (c : Char) : Bool :=
  match selector with
  | .fullwidth => [0x2018, 0x2019, 0x201c, 0x201d].contains c.toNat
  | .text => textBaseRanges.has c
  | .picture => pictureBaseRanges.has c

/-- The glyph to the right of a place that a further character can still join. -/
inductive Glyph
  | closed
  | ligature (form : Ligature)
  | emoji (tail : EmojiTail)
deriving DecidableEq, Repr

/-- The glyph that a character begins. The characters up to U+00A0 begin none. -/
def Glyph.ofChar (c : Char) : Glyph :=
  if c.toNat ≤ 0xa0 then .closed
  else
    match EmojiTail.ofChar? c, Ligature.ofChar? c with
    | some tail, _ => .emoji tail
    | none, some form => .ligature form
    | none, none => .closed

/-- The glyph as far as a selector lets it through to the left. A ligature stands on both sides of
an invisible mark; an emoji that has been joined takes a base only by the selector for pictures. -/
def Glyph.behind (selector : Selector) : Glyph → Glyph
  | .ligature form => if form.spansMarks then .ligature form else .closed
  | .emoji tail => if selector = .picture && tail.takesBase then .emoji tail else .closed
  | .closed => .closed

/-- The glyph behind a selector that turned out to have no base. -/
def Glyph.unselected : Glyph → Glyph
  | .ligature form => .ligature form
  | _ => .closed

/-- What has been read of a text, from its end to some place in it. -/
structure Reading where
  /-- The columns so far. -/
  columns : Int
  /-- The variation selector to the right of the place. -/
  selector : Option Selector
  /-- The glyph to the right of the place. -/
  glyph : Glyph
deriving DecidableEq, Repr

namespace Reading

/-- Nothing is read. -/
def start : Reading := ⟨0, none, .closed⟩

/-- Reads the base of a variation selector. -/
def readBase (reading : Reading) : Selector → Reading
  | .fullwidth => ⟨reading.columns + 2, none, .closed⟩
  | .text => ⟨reading.columns + 1, none, .closed⟩
  | .picture =>
    let columns : Int := match reading.glyph with
      | .emoji _ => 0
      | _ => 2
    ⟨reading.columns + columns, none, .emoji .picture⟩

/-- Reads a character that joins nothing on its right. -/
def readAlone (reading : Reading) (c : Char) : Reading :=
  ⟨reading.columns + charWidth c, none, .ofChar c⟩

/-- Reads a character that is the base of no selector: a selector, or a part of the glyph on its
right, or the beginning of another glyph. -/
def readPart (reading : Reading) (c : Char) : Reading :=
  match Selector.ofChar? c with
  | some selector => ⟨reading.columns, some selector, reading.glyph.behind selector⟩
  | none =>
    match reading.glyph with
    | .ligature form =>
      match form.extend? c with
      | some (columns, some longer) => ⟨reading.columns + columns, none, .ligature longer⟩
      | some (columns, none) => ⟨reading.columns + columns, none, .closed⟩
      | none => reading.readAlone c
    | .emoji tail =>
      match tail.extend? c with
      | some (columns, longer) => ⟨reading.columns + columns, none, .emoji longer⟩
      | none => reading.readAlone c
    | .closed => reading.readAlone c

/-- Reads the character to the left of what has been read. -/
def read (reading : Reading) (c : Char) : Reading :=
  match reading.selector with
  | some selector =>
    if selector.hasBase c then reading.readBase selector
    else readPart ⟨reading.columns, none, reading.glyph.unselected⟩ c
  | none => reading.readPart c

end Reading

/-- The columns that a text takes. -/
def width (s : String) : Nat :=
  (s.toList.foldr (fun c (reading : Reading) => reading.read c) Reading.start).columns.toNat

end LedgerSearch.Text
