/-!
# `LedgerSearch.Text.Hex`: hexadecimal escapes

Both file formats of this library write characters as hexadecimal numbers with a fixed count of
digits, capital or small.
-/

set_option autoImplicit false

namespace LedgerSearch.Text

/-- The value of a hexadecimal digit. -/
def hexValue? (c : Char) : Option Nat :=
  if '0' ≤ c ∧ c ≤ '9' then some (c.toNat - '0'.toNat)
  else if 'a' ≤ c ∧ c ≤ 'f' then some (c.toNat - 'a'.toNat + 10)
  else if 'A' ≤ c ∧ c ≤ 'F' then some (c.toNat - 'A'.toNat + 10)
  else none

/-- The number that hexadecimal digits denote, `acc` being the value of those before them. -/
def hexNumber? (acc : Nat) : List Char → Option Nat
  | [] => some acc
  | c :: cs => (hexValue? c).bind fun d => hexNumber? (acc * 16 + d) cs

end LedgerSearch.Text
