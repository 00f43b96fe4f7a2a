import LedgerSearch.Toml.Reader

/-!
# `LedgerSearch.Config.Sections`: what one configuration file sets

A file sets what it likes: each key may be absent. A section is a table, or an array that gives the
values of the section's keys in their order, or a date, which has none of the keys. Unknown keys are
ignored, but what they hold must be sound.
-/

set_option autoImplicit false

namespace LedgerSearch.Config

open Toml (Value lookUp)

/-- The section `[settings]`. -/
structure SettingsSection where
  ledger : Option String := none
deriving DecidableEq, Repr, Inhabited

/-- The section `[search]`. -/
structure SearchSection where
  implicitAnd : Option Bool := none
  fallback : Option Bool := none
deriving DecidableEq, Repr, Inhabited

/-- What one file sets. -/
structure Sections where
  /-- Files farther away are not to be looked at. -/
  root : Option Bool := none
  settings : Option SettingsSection := none
  search : Option SearchSection := none
deriving DecidableEq, Repr, Inhabited

/-! ### Reading -/

/-- The text that a value is. -/
def readString : Value → Option String
  | .string text => some text
  | _ => none

/-- The truth value that a value is. -/
def readBool : Value → Option Bool
  | .bool b => some b
  | _ => none

/-- What the key sets, which may be nothing; fails when it holds something else. -/
def readKey {α : Type} (read : Value → Option α) (entries : List (String × Value)) (key : String) :
    Option (Option α) :=
  match lookUp entries key with
  | none => some none
  | some value => (read value).map some

/-- The values of all other keys are sound. -/
def ignoresSoundly (keys : List String) (entries : List (String × Value)) : Bool :=
  entries.all fun entry => keys.contains entry.1 || entry.2.isSound

/-- The entries of a section with the given keys. -/
def sectionEntries (keys : List String) : Value → Option (List (String × Value))
  | .table entries => if ignoresSoundly keys entries then some entries else none
  | .array items => some (keys.zip items)
  | .dateTime => some []
  | _ => none

/-- The section `[settings]` that a value is. -/
def readSettings (v : Value) : Option SettingsSection := do
  let entries ← sectionEntries ["ledger"] v
  return { ledger := ← readKey readString entries "ledger" }

/-- The section `[search]` that a value is. -/
def readSearch (v : Value) : Option SearchSection := do
  let entries ← sectionEntries ["implicit_and", "fallback"] v
  return {
    implicitAnd := ← readKey readBool entries "implicit_and"
    fallback := ← readKey readBool entries "fallback" }

namespace Sections

/-- The sections of a table. -/
def ofEntries (entries : List (String × Value)) : Option Sections := do
  guard (ignoresSoundly ["root", "settings", "search"] entries)
  return {
    root := ← readKey readBool entries "root"
    settings := ← readKey readSettings entries "settings"
    search := ← readKey readSearch entries "search" }

/-- The sections of a text; nothing when it is no configuration file. -/
def parse (text : String) : Option Sections :=
  (Toml.parse text).bind ofEntries

end Sections

end LedgerSearch.Config
