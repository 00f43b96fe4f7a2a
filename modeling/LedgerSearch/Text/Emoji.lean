import LedgerSearch.Text.EmojiTable

/-!
# `LedgerSearch.Text.Emoji`: characters that make one picture

An emoji may be a sequence: a base with a skin tone, two regional indicators that name a flag, or
several emoji with joiners between them, of which each part must be a whole emoji by itself. However
long, the sequence is one picture of two columns.

A text is read from its end, so what is read of a sequence is its tail; `EmojiTail.extend?` says
what a character on the left makes of it.
-/

set_option autoImplicit false

namespace LedgerSearch.Text

/-- The character is one of the five skin tones. -/
def isSkinTone (c : Char) : Bool :=
  0x1f3fb ≤ c.toNat && c.toNat ≤ 0x1f3ff

/-- The character is a regional indicator, half of a flag. -/
def isFlagLetter (c : Char) : Bool :=
  0x1f1e6 ≤ c.toNat && c.toNat ≤ 0x1f1ff

/-- The character is a lower-case letter among the tags. -/
def isTagLetter (c : Char) : Bool :=
  0xe0061 ≤ c.toNat && c.toNat ≤ 0xe007a

/-- The character is a digit among the tags. -/
def isTagDigit (c : Char) : Bool :=
  0xe0030 ≤ c.toNat && c.toNat ≤ 0xe0039

/-- The tail of an emoji sequence. -/
inductive EmojiTail
  /-- A skin tone, which a base takes in. -/
  | skinTone
  /-- So many regional indicators. -/
  | flagLetters (count : Nat)
  /-- A whole emoji. -/
  | picture
  /-- A joiner and a whole emoji behind it, which the emoji on the left takes in. -/
  | joined
  /-- The mark U+20E3 of a keycap in front of a joiner. -/
  | joinedKeycap
  /-- So many regional indicators in front of a joiner. -/
  | joinedFlagLetters (count : Nat)
  /-- The tags of a flag in front of a joiner: first digits, then letters, then the closing tag. -/
  | joinedTags (digits letters : Nat)
deriving DecidableEq, Repr

/-- The tail with which a character begins that joins nothing behind it. -/
def EmojiTail.ofChar? (c : Char) : Option EmojiTail :=
  if isSkinTone c then some .skinTone
  else if isFlagLetter c then some (.flagLetters 1)
  else if pictureRanges.has c then some .picture
  else none

/-- The tail begins with a whole emoji, so that a joiner can stand before it. -/
def EmojiTail.isWhole : EmojiTail → Bool
  | .skinTone | .picture => true
  | .flagLetters count | .joinedFlagLetters count => 2 ≤ count
  | _ => false

/-- What a character on its left makes of the tail: the columns that it adds and the longer tail.
`none` when the character is no part of the sequence. The first letter of a joined flag takes back
the column that its second one was given in case it stood alone. -/
def EmojiTail.extend? (tail : EmojiTail) (c : Char) : Option (Int × EmojiTail) :=
  let n := c.toNat
  if n = 0x200d then
    if tail.isWhole then some (0, .joined) else none
  else
    match tail with
    | .skinTone => if modifierBaseRanges.has c then some (0, .picture) else none
    | .flagLetters count => if isFlagLetter c then some (1, .flagLetters (count + 1)) else none
    | .picture => none
    | .joined =>
      if n = 0x20e3 then some (0, .joinedKeycap)
      else if n = 0xe007f then some (0, .joinedTags 0 0)
      else if isFlagLetter c then some (1, .joinedFlagLetters 1)
      else if isSkinTone c then some (0, .skinTone)
      else if pictureRanges.has c then some (0, .picture)
      else none
    | .joinedKeycap => none
    | .joinedFlagLetters count =>
      if isFlagLetter c then some (if count % 2 = 0 then 3 else -1, .joinedFlagLetters (count + 1))
      else none
    | .joinedTags digits letters =>
      if isTagLetter c && digits = 0 && letters < 6 then some (0, .joinedTags 0 (letters + 1))
      else if isTagDigit c && (if digits = 0 then letters ≤ 4 else digits < 3) then
        some (0, .joinedTags (digits + 1) letters)
      else if n = 0x1f3f4 && (digits = 3 || digits = 0 && 3 ≤ letters) then some (0, .picture)
      else none

/-- The tail waits for a base that U+FE0F turned into a picture: that base is part of the sequence
and adds no column. -/
def EmojiTail.takesBase : EmojiTail → Bool
  | .joined | .joinedKeycap => true
  | _ => false

end LedgerSearch.Text
