/-!
# `LedgerSearch.Toml.Basic`: TOML values

A configuration file sets texts and truth values, so of the other scalars only the kind is kept. The
one thing about a number that can still matter is whether it fits the widest type of its kind: a
number that does not is an error wherever it is looked at.
-/

set_option autoImplicit false

namespace LedgerSearch.Toml

/-- A TOML value. -/
inductive Value
  | string (text : String)
  | bool (b : Bool)
  /-- An integer or a floating-point number. -/
  | number (fits : Bool)
  /-- A date, a time or both. -/
  | dateTime
  | array (items : List Value)
  | table (entries : List (String × Value))
deriving Repr, Inhabited

/-- The value of a key. -/
def lookUp (entries : List (String × Value)) (key : String) : Option Value :=
  (entries.find? (·.1 = key)).map (·.2)

mutual

/-- Every number in the value fits. -/
def Value.isSound : Value → Bool
  | .number fits => fits
  | .array items => allSound items
  | .table entries => allEntriesSound entries
  | _ => true

/-- Every number in the values fits. -/
def allSound : List Value → Bool
  | [] => true
  | item :: items => item.isSound && allSound items

/-- Every number in the entries fits. -/
def allEntriesSound : List (String × Value) → Bool
  | [] => true
  | (_, value) :: entries => value.isSound && allEntriesSound entries

end

end LedgerSearch.Toml
