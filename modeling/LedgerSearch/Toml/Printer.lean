/-!
# `LedgerSearch.Toml.Printer`: writing strings in TOML

Of the forms of a string the printer takes the first in which the text needs no escape: between
quotes, between apostrophes, and then the same two with tripled marks, the first of which may hold
line breaks and single marks. A text that needs escapes in every form is written between quotes,
tripled ones if it spans lines.
-/

set_option autoImplicit false

namespace LedgerSearch.Toml

/-! ### The choice of a form -/

/-- The forms of a string: between quotes or between apostrophes, on one line or with tripled
marks. -/
inductive StringForm
  | basic
  | literal
  | multilineBasic
  | multilineLiteral
deriving DecidableEq, Repr

/-- The character has to be escaped in every form. Tabs and line breaks have forms in which they
stand for themselves. -/
def isControl (c : Char) : Bool :=
  c != '\t' && c != '\n' && (c.toNat < 0x20 || c.toNat = 0x7f)

/-- The length of the longest run of a character, `run` being the length of the one in progress and
`longest` that of the longest before it. -/
def longestRun (mark : Char) (run longest : Nat) : List Char → Nat
  | [] => max run longest
  | c :: cs =>
    if c = mark then longestRun mark (run + 1) longest cs
    else longestRun mark 0 (max run longest) cs

/-- The form in which a text is written. -/
def StringForm.ofText (cs : List Char) : StringForm :=
  let controls := cs.any isControl
  let backslashes := cs.contains '\\'
  let lines := cs.contains '\n'
  if !controls && !backslashes && !lines && !cs.contains '"' then .basic
  else if !controls && !lines && !cs.contains '\'' then .literal
  else if !controls && !backslashes && longestRun '"' 0 0 cs ≤ 2 then .multilineBasic
  else if !controls && longestRun '\'' 0 0 cs ≤ 2 then .multilineLiteral
  else if lines then .multilineBasic
  else .basic

/-! ### Writing -/

/-- Four capital hexadecimal digits. -/
def fourHexDigits (n : Nat) : List Char :=
  [n / 4096, n / 256, n / 16, n].map fun d => (Nat.digitChar (d % 16)).toUpper

/-- How a character other than the quote is written in a basic string. -/
def escapeChar (c : Char) : List Char :=
  match c with
  | '\x08' => ['\\', 'b']
  | '\t' => ['\\', 't']
  | '\n' => ['\\', 'n']
  | '\x0c' => ['\\', 'f']
  | '\r' => ['\\', 'r']
  | '\\' => ['\\', '\\']
  | c => if isControl c then '\\' :: 'u' :: fourHexDigits c.toNat else [c]

/-- The text between the marks of a basic string. `quotes` of them have just been written without an
escape, and at most `limit` may be in a row; line breaks stand for themselves where two may. -/
def escapeBasic (limit quotes : Nat) : List Char → List Char
  | [] => []
  | c :: cs =>
    if c = '"' then
      if quotes < limit then '"' :: escapeBasic limit (quotes + 1) cs
      else '\\' :: '"' :: escapeBasic limit 0 cs
    else if c = '\n' ∧ 0 < limit then '\n' :: escapeBasic limit 0 cs
    else escapeChar c ++ escapeBasic limit 0 cs

theorem escapeBasic_cons (limit quotes : Nat) (c : Char) (cs : List Char) :
    escapeBasic limit quotes (c :: cs)
      = if c = '"' then
          if quotes < limit then '"' :: escapeBasic limit (quotes + 1) cs
          else '\\' :: '"' :: escapeBasic limit 0 cs
        else if c = '\n' ∧ 0 < limit then '\n' :: escapeBasic limit 0 cs
        else escapeChar c ++ escapeBasic limit 0 cs :=
  rfl

/-- The text between tripled marks. A line break at its front keeps the text off the line of the
opening marks when it has lines. -/
def tripled (mark : Char) (lines : Bool) (body : List Char) : List Char :=
  let marks := [mark, mark, mark]
  marks ++ (if lines then ['\n'] else []) ++ body ++ marks

/-- The text as a string of a form. -/
def StringForm.write (form : StringForm) (cs : List Char) : List Char :=
  let lines := cs.contains '\n'
  match form with
  | .basic => '"' :: (escapeBasic 0 0 cs ++ ['"'])
  | .literal => '\'' :: (cs ++ ['\''])
  | .multilineBasic => tripled '"' lines (escapeBasic 2 0 cs)
  | .multilineLiteral => tripled '\'' lines cs

/-- A text as a TOML string. -/
def quoted (s : String) : String :=
  String.ofList ((StringForm.ofText s.toList).write s.toList)

end LedgerSearch.Toml
