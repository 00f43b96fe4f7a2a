import LedgerSearch.Text.CharWidth

/-!
# `LedgerSearch.Text.Ligature`: letters that share the columns of one glyph

Some scripts draw certain neighbours as one glyph, which is narrower than its letters would be
apart. A text is read from its end, so a ligature begins with its last letter: `Ligature.ofChar?`
names the letters that can be one, and `Ligature.extend?` says what a character on their left makes
of them.

Invisible marks may stand anywhere inside a ligature, and so may joiners, except that an Arabic lam
and alef are parted by a joiner and kept together by every transparent mark.
-/

set_option autoImplicit false

namespace LedgerSearch.Text

/-- A ligature as far as it has been read, from its last letter on. In the scripts that ask for a
joiner between the letters, `joined` says that it has been seen. -/
inductive Ligature
  /-- The Arabic alef, which leans on a lam. -/
  | alef
  /-- The Hebrew lamed, joined to an alef. -/
  | lamed (joined : Bool)
  /-- A Khmer letter, drawn below the line behind a coeng sign. -/
  | subscript
  /-- The Buginese ya, joined to an a with the vowel sign i. -/
  | ya (joined : Bool)
  /-- The Buginese vowel sign i with the ya joined to it. -/
  | vowelYa
  /-- A Tifinagh consonant, joined to another one. -/
  | consonant (joined : Bool)
  /-- The Tifinagh consonant joiner and the consonant behind it. -/
  | joinedConsonant
  /-- The Lisu tone letters mya na and mya jeu, which stand under another tone letter. -/
  | toneLetter
  /-- The Old Turkic letter i, joined to a letter iy. -/
  | turkicI (joined : Bool)
  /-- The Kirat Rai vowel sign e, a part of the longer vowel signs. -/
  | vowelE
  /-- The Kirat Rai vowel sign ai, in one character or in two. -/
  | vowelAi
deriving DecidableEq, Repr

/-- The letters and vowel signs at which a ligature can end. -/
def Ligature.ofChar? (c : Char) : Option Ligature :=
  let n := c.toNat
  if alefRanges.has c then some .alef
  else if n = 0x5dc then some (.lamed false)
  else if khmerSubscriptRanges.has c then some .subscript
  else if n = 0x1a10 then some (.ya false)
  else if (0x2d31 ≤ n && n ≤ 0x2d65) || n = 0x2d6f then some (.consonant false)
  else if n = 0xa4fc || n = 0xa4fd then some .toneLetter
  else if n = 0x10c03 then some (.turkicI false)
  else if n = 0x16d67 then some .vowelE
  else if n = 0x16d68 then some .vowelAi
  else none

/-- The ligature behind a joiner. -/
def Ligature.join : Ligature → Ligature
  | .lamed _ => .lamed true
  | .ya _ => .ya true
  | .consonant _ => .consonant true
  | .turkicI _ => .turkicI true
  | other => other

/-- Invisible marks do not part the letters of the ligature. -/
def Ligature.spansMarks : Ligature → Bool
  | .vowelE | .vowelAi => false
  | _ => true

/-- The character takes no part in the ligature and does not end it either. -/
def Ligature.looksThrough (ligature : Ligature) (c : Char) : Bool :=
  match ligature with
  | .alef => isJoinTransparent c
  | other => other.spansMarks && (c.toNat = 0x200d || invisibleMarkRanges.has c)

/-- What a character on its left makes of the ligature: the columns that it adds, which are negative
where the letter behind it gives up its own, and what can still be joined. `none` when the character
is no part of the ligature. -/
def Ligature.extend? (ligature : Ligature) (c : Char) : Option (Int × Option Ligature) :=
  let n := c.toNat
  if ligature.looksThrough c then
    some (0, some (if n = 0x200d then ligature.join else ligature))
  else
    match ligature with
    | .alef => if lamRanges.has c then some (0, none) else none
    | .lamed joined => if joined && n = 0x5d0 then some (0, none) else none
    | .subscript => if n = 0x17d2 then some (-1, none) else none
    | .ya joined => if joined && n = 0x1a17 then some (0, some .vowelYa) else none
    | .vowelYa => if n = 0x1a15 then some (0, none) else none
    | .consonant joined =>
      if n = 0x2d7f then some (1, some .joinedConsonant)
      else if joined && Ligature.ofChar? c = some (.consonant false) then some (0, none)
      else none
    | .joinedConsonant =>
      if Ligature.ofChar? c = some (.consonant false) then some (-1, none) else none
    | .toneLetter => if 0xa4f8 ≤ n && n ≤ 0xa4fb then some (0, none) else none
    | .turkicI joined => if joined && n = 0x10c32 then some (0, none) else none
    | .vowelE =>
      if n = 0x16d63 || n = 0x16d69 then some (0, none)
      else if n = 0x16d67 then some (0, some .vowelAi)
      else if n = 0x16d68 then some (1, some .vowelE)
      else none
    | .vowelAi => if n = 0x16d63 then some (0, none) else none

end LedgerSearch.Text
