/-!
# `LedgerSearch.Json.Basic`: JSON values

A value keeps what a reader of it may ask for. A number keeps its digits, since whether it can be an
identifier depends on how it is written and its nearest floating-point number only matters where one
is wanted. A string or a key may hold escapes of unpaired surrogates; such a literal denotes no
text, which does no harm where nobody reads it, so it is kept as a literal without a text.

Members keep their order and their repetitions: which repetitions are an error is for the reader of
an object to say.
-/

set_option autoImplicit false

namespace LedgerSearch.Json

/-- A number as it is written: whole part, digits behind the point, power of ten. -/
structure Number where
  negative : Bool
  whole : Nat
  /-- The digits behind the point; none when there is no point. -/
  fraction : List (Fin 10)
  exponent : Option Int
deriving DecidableEq, Repr, Inhabited

/-- A string literal: its text, or nothing when its escapes denote none. -/
abbrev Literal := Option String

/-- A JSON value. -/
inductive Value
  | null
  | bool (b : Bool)
  | number (n : Number)
  | string (literal : Literal)
  | array (items : List Value)
  | object (members : List (Literal × Value))
deriving Repr, Inhabited

namespace Value

/-- A string with the given text. -/
def text (s : String) : Value :=
  string (some s)

/-- An optional value, `null` when it is absent. -/
def ofOption {α : Type} (f : α → Value) : Option α → Value
  | some a => f a
  | none => null

/-- An object with the given members. -/
def ofFields (fields : List (String × Value)) : Value :=
  object (fields.map fun field => (some field.1, field.2))

end Value

end LedgerSearch.Json
