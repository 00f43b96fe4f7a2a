import LedgerSearch.Config.Basic
import LedgerSearch.Config.Sections

/-!
# `LedgerSearch.Config.Source`: from configuration files to settings

Files come with the highest precedence first, and each setting is that of the first file that sets
it. A ledger is looked up from the directory of the file that names it.
-/

set_option autoImplicit false

namespace LedgerSearch.Config

/-- A configuration file that has been read. -/
structure Source where
  path : FileSystem.Path
  sections : Sections
deriving DecidableEq, Repr, Inhabited

namespace Source

/-- The ledger that the file names. -/
def ledger (s : Source) : Option FileSystem.Path :=
  (s.sections.settings.bind (·.ledger)).map fun text => s.path.directory.join ⟨text⟩

/-- The file's choice about adjacent operands. -/
def implicitAnd (s : Source) : Option Bool :=
  s.sections.search.bind (·.implicitAnd)

/-- The file's choice about malformed queries. -/
def fallback (s : Source) : Option Bool :=
  s.sections.search.bind (·.fallback)

end Source

/-- The settings that the files give together, the one with the highest precedence first. -/
def merge (sources : List Source) : Config where
  ledger := sources.findSome? Source.ledger
  implicitAnd := (sources.findSome? Source.implicitAnd).getD true
  fallback := (sources.findSome? Source.fallback).getD true
  root := sources.head?.map (·.path.directory)

end LedgerSearch.Config
