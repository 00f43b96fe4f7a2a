import LedgerSearch.FileSystem.Basic
import LedgerSearch.Toml.Printer

/-!
# `LedgerSearch.Config.Basic`: the settings in effect

`Config` holds what the configuration files settle together. `toToml` writes it as a configuration
file would set it.
-/

set_option autoImplicit false

namespace LedgerSearch

/-- The settings in effect. -/
structure Config where
  /-- The ledger file. -/
  ledger : Option FileSystem.Path := none
  /-- Adjacent operands are joined by `AND`. -/
  implicitAnd : Bool := true
  /-- A malformed query is searched for by its words. -/
  fallback : Bool := true
  /-- The directory of the file with the highest precedence. -/
  root : Option FileSystem.Path := none
deriving DecidableEq, Repr, Inhabited

namespace Config

/-- A truth value in TOML. -/
def truthText (b : Bool) : String :=
  if b then "true" else "false"

/-- The settings as the text of a configuration file. -/
def toToml (c : Config) : String :=
  let ledger :=
    match c.ledger with
    | some path => "ledger = " ++ Toml.quoted path.text ++ "\n"
    | none => ""
  "[settings]\n" ++ ledger ++ "\n[search]\nimplicit_and = " ++ truthText c.implicitAnd
    ++ "\nfallback = " ++ truthText c.fallback ++ "\n"

end Config

end LedgerSearch
