import LedgerSearch.Text.Hex

/-!
# `LedgerSearch.Toml.Text`: strings in TOML

TOML has four forms of a string. A basic string stands between quotes and has escapes, a literal
string stands between apostrophes and has none; both end on their line. Each form has a multi-line
variant between tripled marks, which drops a line break right behind the opening marks and may hold
one or two of its own marks in a row, also right before the closing ones. A backslash at the end of
a line of a multi-line basic string joins the next text that is not white space.

Control characters, the tab excepted, stand in no string but as escapes. Line breaks are kept as
they are written.
-/

set_option autoImplicit false

namespace LedgerSearch.Toml

/-- The character can stand for itself on a line. -/
def isTextChar (c : Char) : Bool :=
  c = '\t' || (0x20 ≤ c.toNat && c.toNat != 0x7f)

/-! ### Marks and escapes -/

/-- A character in front of the text of a string. -/
def keep (c : Char) (r : Option (List Char × List Char)) : Option (List Char × List Char) :=
  r.map fun r => (c :: r.1, r.2)

theorem keep_eq_some_iff {c : Char} {r : Option (List Char × List Char)} {text rest : List Char} :
    keep c r = some (text, rest) ↔ ∃ text', r = some (text', rest) ∧ c :: text' = text := by
  simp [keep, Option.map_eq_some_iff]

/-- The text without a line break at its front. -/
def dropLineBreak : List Char → List Char
  | '\n' :: cs => cs
  | '\r' :: '\n' :: cs => cs
  | cs => cs

/-- Up to two marks right behind three of them: of five marks in a row the last three close. -/
def trailingMarks (mark : Char) (cs : List Char) : List Char × List Char :=
  match cs with
  | a :: b :: rest =>
    if a = mark then if b = mark then ([a, b], rest) else ([a], b :: rest) else ([], cs)
  | [a] => if a = mark then ([a], []) else ([], cs)
  | [] => ([], [])

/-- The character of an escape with a single letter. -/
def escaped? (c : Char) : Option Char :=
  if c = '"' ∨ c = '\\' then some c
  else if c = 'b' then some '\x08'
  else if c = 't' then some '\t'
  else if c = 'n' then some '\n'
  else if c = 'f' then some '\x0c'
  else if c = 'r' then some '\r'
  else if c = 'e' then some '\x1b'
  else none

/-- The character with the code point that hexadecimal digits denote, which may be no surrogate. -/
def codePoint? (digits : List Char) : Option Char :=
  (Text.hexNumber? 0 digits).bind fun n => if n.isValidChar then some (Char.ofNat n) else none

/-- What is skipped behind a backslash that ends a line of a multi-line string. -/
inductive Skipping
  | nothing
  /-- The rest of the line, which has to be blank. -/
  | restOfLine
  /-- Blank lines, and the blanks in front of the next text. -/
  | blankLines
deriving DecidableEq, Repr

/-- White space stands at the front. -/
def startsBlank : List Char → Bool
  | c :: _ => c = ' ' || c = '\t' || c = '\n' || c = '\r'
  | [] => false

/-! ### Basic strings -/

/-- The text of a basic string whose opening quotes have been read, and the rest. What is to be
skipped, behind a backslash at the end of a line, is no part of it. -/
def readBasic (multiline : Bool) (skipping : Skipping) :
    List Char → Option (List Char × List Char)
  | [] => none
  | c :: cs =>
    if skipping ≠ .nothing ∧ (c = ' ' ∨ c = '\t') then readBasic multiline skipping cs
    else if skipping ≠ .nothing ∧ c = '\n' then readBasic multiline .blankLines cs
    else if skipping ≠ .nothing ∧ c = '\r' then
      if cs.head? = some '\n' then readBasic multiline skipping cs else none
    else if skipping = .restOfLine then none
    else if c = '"' then
      if multiline then
        match cs with
        | '"' :: '"' :: rest => some (trailingMarks '"' rest)
        | _ => keep c (readBasic multiline .nothing cs)
      else some ([], cs)
    else if c = '\\' then
      if multiline && startsBlank cs then readBasic multiline .restOfLine cs
      else
        match cs with
        | 'x' :: a :: b :: cs =>
          match codePoint? [a, b] with
          | some e => keep e (readBasic multiline .nothing cs)
          | none => none
        | 'u' :: a :: b :: c :: d :: cs =>
          match codePoint? [a, b, c, d] with
          | some e => keep e (readBasic multiline .nothing cs)
          | none => none
        | 'U' :: a :: b :: c :: d :: e :: f :: g :: h :: cs =>
          match codePoint? [a, b, c, d, e, f, g, h] with
          | some e => keep e (readBasic multiline .nothing cs)
          | none => none
        | e :: cs =>
          match escaped? e with
          | some e => keep e (readBasic multiline .nothing cs)
          | none => none
        | [] => none
    else if multiline ∧ c = '\r' then
      if cs.head? = some '\n' then keep c (readBasic multiline .nothing cs) else none
    else if (multiline ∧ c = '\n') ∨ isTextChar c then keep c (readBasic multiline .nothing cs)
    else none

/-- A character that stands for itself. -/
theorem readBasic_plain {multiline : Bool} {c : Char} (hc : isTextChar c = true)
    (hquote : c ≠ '"') (hslash : c ≠ '\\') (cs : List Char) :
    readBasic multiline .nothing (c :: cs) = keep c (readBasic multiline .nothing cs) := by
  have hreturn : c ≠ '\r' := fun h => by simp [h, isTextChar] at hc
  rw [readBasic.eq_def]
  simp [hquote, hslash, hreturn, hc]

/-! ### Literal strings -/

/-- The text of a literal string whose opening apostrophe has been read, and the rest. -/
def readLiteral : List Char → Option (List Char × List Char)
  | [] => none
  | c :: cs =>
    if c = '\'' then some ([], cs)
    else if isTextChar c then keep c (readLiteral cs)
    else none

/-- The text of a multi-line literal string whose opening marks have been read, and the rest. -/
def readMultiLiteral : List Char → Option (List Char × List Char)
  | [] => none
  | '\'' :: '\'' :: '\'' :: cs => some (trailingMarks '\'' cs)
  | '\r' :: '\n' :: cs => keep '\r' (keep '\n' (readMultiLiteral cs))
  | c :: cs =>
    if c = '\n' || isTextChar c then keep c (readMultiLiteral cs) else none

/-! ### Strings of any form -/

/-- A string as it is read: its text, and whether it is of a multi-line form, which no key is. -/
structure Quoted where
  text : String
  multiline : Bool
deriving DecidableEq, Repr

/-- The string at the front, if a quote or an apostrophe stands there, and the rest. -/
def readQuoted (cs : List Char) : Option (Quoted × List Char) :=
  match cs with
  | '"' :: '"' :: '"' :: cs =>
    (readBasic true .nothing (dropLineBreak cs)).map fun r => (⟨String.ofList r.1, true⟩, r.2)
  | '"' :: cs => (readBasic false .nothing cs).map fun r => (⟨String.ofList r.1, false⟩, r.2)
  | '\'' :: '\'' :: '\'' :: cs =>
    (readMultiLiteral (dropLineBreak cs)).map fun r => (⟨String.ofList r.1, true⟩, r.2)
  | '\'' :: cs => (readLiteral cs).map fun r => (⟨String.ofList r.1, false⟩, r.2)
  | _ => none

theorem trailingMarks_length_le (mark : Char) (cs : List Char) :
    (trailingMarks mark cs).2.length ≤ cs.length := by
  unfold trailingMarks
  split
  · split
    · split
      · simp only [List.length_cons]
        omega
      · simp
    · exact Nat.le_refl _
  · split <;> simp
  · simp

theorem readBasic_length_lt {multiline : Bool} {skipping : Skipping} {cs text rest : List Char}
    (h : readBasic multiline skipping cs = some (text, rest)) : rest.length < cs.length := by
  fun_induction readBasic multiline skipping cs generalizing text rest <;>
    (try simp only [List.length_cons]) <;> grind [keep_eq_some_iff, trailingMarks_length_le]

theorem readLiteral_length_lt {cs text rest : List Char} (h : readLiteral cs = some (text, rest)) :
    rest.length < cs.length := by
  fun_induction readLiteral cs generalizing text rest <;> grind [keep_eq_some_iff]

theorem readMultiLiteral_length_le {cs text rest : List Char}
    (h : readMultiLiteral cs = some (text, rest)) : rest.length ≤ cs.length := by
  fun_induction readMultiLiteral cs generalizing text rest <;>
    grind [keep_eq_some_iff, trailingMarks_length_le]

theorem dropLineBreak_length_le (cs : List Char) : (dropLineBreak cs).length ≤ cs.length := by
  unfold dropLineBreak
  grind

theorem readQuoted_length_lt {cs : List Char} {q : Quoted} {rest : List Char}
    (h : readQuoted cs = some (q, rest)) : rest.length < cs.length := by
  unfold readQuoted at h
  split at h
  case h_5 => simp at h
  all_goals
    obtain ⟨⟨text, r⟩, hr, heq⟩ := Option.map_eq_some_iff.1 h
    obtain ⟨-, rfl⟩ := Prod.mk.inj heq
    simp only [List.length_cons]
  case h_1 cs =>
    have := readBasic_length_lt hr
    have := dropLineBreak_length_le cs
    omega
  case h_2 =>
    have := readBasic_length_lt hr
    omega
  case h_3 cs =>
    have := readMultiLiteral_length_le hr
    have := dropLineBreak_length_le cs
    omega
  case h_4 =>
    have := readLiteral_length_lt hr
    omega

end LedgerSearch.Toml
