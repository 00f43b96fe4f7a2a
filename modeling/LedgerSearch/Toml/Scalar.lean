import LedgerSearch.Text.Hex
import LedgerSearch.Toml.Basic

/-!
# `LedgerSearch.Toml.Scalar`: scalars without quotes

What stands without quotes in the place of a value is a truth value, a number, or a date or time.
Digits may be grouped by single underscores between them. A decimal integer and the whole part of a
floating-point number have no leading zero. Dates and times are checked against the calendar and the
clock; a time may leave out its seconds.
-/

set_option autoImplicit false

namespace LedgerSearch.Toml

/-! ### Numbers -/

/-- The digits without the underscores that group them; nothing when a group is empty. -/
def ungroup (isDigit : Char → Bool) : List Char → Option (List Char)
  | [] => none
  | [c] => if isDigit c then some [c] else none
  | c :: '_' :: cs => if isDigit c then (ungroup isDigit cs).map (c :: ·) else none
  | c :: cs => if isDigit c then (ungroup isDigit cs).map (c :: ·) else none

/-- The text without a sign at its front, and whether the sign was a minus. -/
def splitSign : List Char → Bool × List Char
  | '-' :: cs => (true, cs)
  | '+' :: cs => (false, cs)
  | cs => (false, cs)

/-- The number that digits of a base up to sixteen denote. -/
def digitsValue (base : Nat) (cs : List Char) : Nat :=
  cs.foldl (fun n c => n * base + (Text.hexValue? c).getD 0) 0

/-- The digits of a decimal integer without sign. -/
def decimalDigits? (cs : List Char) : Option (List Char) :=
  match ungroup Char.isDigit cs with
  | some ['0'] => some ['0']
  | some ('0' :: _) => none
  | digits => digits

/-- The integer fits into 128 bits, with or without a sign. -/
def integerFits (negative : Bool) (n : Nat) : Bool :=
  if negative then n ≤ Nat.pow 2 127 else n < Nat.pow 2 128

/-- Integers: decimal with an optional sign, or of base 16, 8 or 2 with a marked base. -/
def readInteger (cs : List Char) : Option Value :=
  match cs with
  | '0' :: 'x' :: cs =>
    (ungroup (fun c => (Text.hexValue? c).isSome) cs).map fun ds =>
      .number (integerFits false (digitsValue 16 ds))
  | '0' :: 'o' :: cs =>
    (ungroup (fun c => '0' ≤ c ∧ c ≤ '7') cs).map fun ds =>
      .number (integerFits false (digitsValue 8 ds))
  | '0' :: 'b' :: cs =>
    (ungroup (fun c => c = '0' ∨ c = '1') cs).map fun ds =>
      .number (integerFits false (digitsValue 2 ds))
  | cs =>
    let (negative, cs) := splitSign cs
    (decimalDigits? cs).map fun ds => .number (integerFits negative (digitsValue 10 ds))

/-- The decimal number `digits * 10 ^ exponent` is below the least one that rounds to infinity. The
first two tests settle all but the numbers close to that border. -/
def floatFits (digits : Nat) (exponent : Int) : Bool :=
  let magnitude := ((Nat.toDigits 10 digits).length : Int) + exponent
  if digits = 0 || magnitude < 308 then true
  else if magnitude > 310 then false
  else
    digits * Nat.pow 10 exponent.toNat
      < (Nat.pow 2 54 - 1) * Nat.pow 2 970 * Nat.pow 10 (-exponent).toNat

/-- Floating-point numbers: a whole part with a fraction, an exponent or both, or one of the special
words. -/
def readFloat (cs : List Char) : Option Value :=
  let (_, cs) := splitSign cs
  if cs = ['i', 'n', 'f'] ∨ cs = ['n', 'a', 'n'] then some (.number true)
  else
    let isMark (c : Char) : Bool := c = 'e' || c = 'E'
    let mantissa := cs.takeWhile fun c => !isMark c
    let exponent := cs.dropWhile fun c => !isMark c
    let fraction := (mantissa.dropWhile (· != '.'))
    if fraction = [] ∧ exponent = [] then none
    else do
      let whole ← decimalDigits? (mantissa.takeWhile (· != '.'))
      let fraction ← if fraction = [] then some [] else ungroup Char.isDigit fraction.tail
      let power : Int ←
        if exponent = [] then some 0
        else
          let (negative, ds) := splitSign exponent.tail
          (ungroup Char.isDigit ds).map fun ds =>
            if negative then -(digitsValue 10 ds : Int) else digitsValue 10 ds
      return .number (floatFits (digitsValue 10 (whole ++ fraction)) (power - fraction.length))

/-! ### Dates and times -/

/-- A number of exactly so many decimal digits at the front, and the rest. -/
def readFixed (count : Nat) (cs : List Char) : Option (Nat × List Char) :=
  let ds := cs.take count
  if ds.length = count ∧ ds.all Char.isDigit then some (digitsValue 10 ds, cs.drop count) else none

/-- The text behind a given character at its front. -/
def skipChar (c : Char) : List Char → Option (List Char)
  | d :: cs => if d = c then some cs else none
  | [] => none

/-- The days of a month. -/
def daysIn (year month : Nat) : Nat :=
  if month = 2 then
    if year % 4 = 0 ∧ (year % 100 ≠ 0 ∨ year % 400 = 0) then 29 else 28
  else if month = 4 ∨ month = 6 ∨ month = 9 ∨ month = 11 then 30
  else 31

/-- The text behind a date `YYYY-MM-DD`. -/
def skipDate (cs : List Char) : Option (List Char) := do
  let (year, cs) ← readFixed 4 cs
  let cs ← skipChar '-' cs
  let (month, cs) ← readFixed 2 cs
  let cs ← skipChar '-' cs
  let (day, cs) ← readFixed 2 cs
  if 1 ≤ month ∧ month ≤ 12 ∧ 1 ≤ day ∧ day ≤ daysIn year month then some cs else none

/-- The text behind a time of day, whose seconds may have a fraction or be left out. A leap second
is a second. -/
def skipTime (cs : List Char) : Option (List Char) := do
  let (hour, cs) ← readFixed 2 cs
  let cs ← skipChar ':' cs
  let (minute, cs) ← readFixed 2 cs
  if 23 < hour ∨ 59 < minute then none
  else
    match skipChar ':' cs with
    | none => some cs
    | some cs =>
      let (second, cs) ← readFixed 2 cs
      if 60 < second then none
      else
        match skipChar '.' cs with
        | none => some cs
        | some cs =>
          if cs.takeWhile Char.isDigit = [] then none else some (cs.dropWhile Char.isDigit)

/-- The text behind the offset from universal time, if one is there. -/
def skipOffset (cs : List Char) : Option (List Char) :=
  match cs with
  | 'Z' :: cs | 'z' :: cs => some cs
  | '+' :: cs | '-' :: cs => do
    let (hour, cs) ← readFixed 2 cs
    let cs ← skipChar ':' cs
    let (minute, cs) ← readFixed 2 cs
    if 23 < hour ∨ 59 < minute then none else some cs
  | cs => some cs

/-- A date, a time, or a date with a time behind `T` or a space and with an optional offset. -/
def readDateTime (cs : List Char) : Option Value :=
  match skipDate cs with
  | some [] => some .dateTime
  | some (c :: cs) =>
    if c = 'T' ∨ c = 't' ∨ c = ' ' then
      if (skipTime cs).bind skipOffset = some [] then some .dateTime else none
    else none
  | none => if skipTime cs = some [] then some .dateTime else none

/-- The scalar that a text without quotes denotes. -/
def readScalar (cs : List Char) : Option Value :=
  if cs = ['t', 'r', 'u', 'e'] then some (.bool true)
  else if cs = ['f', 'a', 'l', 's', 'e'] then some (.bool false)
  else
    match readInteger cs with
    | some v => some v
    | none =>
      match readFloat cs with
      | some v => some v
      | none => readDateTime cs

end LedgerSearch.Toml
