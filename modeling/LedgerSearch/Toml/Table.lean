import LedgerSearch.Toml.Basic

/-!
# `LedgerSearch.Toml.Table`: tables as statements build them up

A TOML file is a row of statements that each add to one tree of tables. A table can be written in
four ways, and the way decides who may add to it later:

* by a header of its own, once; a header deeper down may come before it;
* by being named on the way to a deeper header, which leaves it open for a header of its own;
* by a dotted key, which leaves it open for further dotted keys of the same table only;
* as a value between braces, which closes it.

Headers in double brackets add a table to an array of tables; a path that leads through the array
means its last table.
-/

set_option autoImplicit false

namespace LedgerSearch.Toml

/-- How a table came to be. -/
inductive Origin
  /-- By a header of its own. -/
  | header
  /-- On the way to a deeper header. -/
  | implied
  /-- By a dotted key. -/
  | dotted
deriving DecidableEq, Repr

/-- A node of the tree of tables while the statements are read. -/
inductive Node
  /-- A value, to which nothing can be added. -/
  | value (v : Value)
  | table (origin : Origin) (entries : List (String × Node))
  /-- An array of tables, the last one first. -/
  | tables (elements : List (List (String × Node)))

/-- The entries of a table. -/
abbrev Entries := List (String × Node)

/-- The entries with the node of one key replaced by what `f` makes of it; a key that is not there
is added at the end. Nothing when `f` refuses. -/
def alter (key : String) (f : Option Node → Option Node) : Entries → Option Entries
  | [] => (f none).map fun node => [(key, node)]
  | (k, node) :: rest =>
    if k = key then (f (some node)).map fun node => (k, node) :: rest
    else (alter key f rest).map ((k, node) :: ·)

/-- The entries with the table at the end of a header's path replaced by what `f` makes of it.
Tables missing on the way are made. -/
def atPath (f : Entries → Option Entries) : (path : List String) → Entries → Option Entries
  | [], entries => f entries
  | key :: path, entries =>
    alter key (fun
      | none => (atPath f path []).map (.table .implied)
      | some (.table origin es) => (atPath f path es).map (.table origin)
      | some (.tables (last :: others)) =>
        (atPath f path last).map fun es => .tables (es :: others)
      | some (.tables []) => none
      | some (.value _) => none) entries

/-- The entries with the table that a header names. -/
def addTable (key : String) : Entries → Option Entries :=
  alter key fun
    | none => some (.table .header [])
    | some (.table .implied es) => some (.table .header es)
    | some _ => none

/-- The entries with one more table in the array of tables that a header names. -/
def addElement (key : String) : Entries → Option Entries :=
  alter key fun
    | none => some (.tables [[]])
    | some (.tables elements) => some (.tables ([] :: elements))
    | some _ => none

/-- The entries with a value at a key, which may be dotted. A table that a header made or implied
takes no value from a dotted key outside it. -/
def addValue (v : Value) : (path : List String) → Entries → Option Entries
  | [], _ => none
  | [key], entries =>
    alter key (fun
      | none => some (.value v)
      | some _ => none) entries
  | key :: next :: path, entries =>
    alter key (fun
      | none => (addValue v (next :: path) []).map (.table .dotted)
      | some (.table .dotted es) => (addValue v (next :: path) es).map (.table .dotted)
      | some (.table .implied es) =>
        if path = [] then none else (addValue v (next :: path) es).map (.table .implied)
      | some (.tables (last :: others)) =>
        if path = [] then none
        else (addValue v (next :: path) last).map fun es => .tables (es :: others)
      | some _ => none) entries

mutual

/-- The value of a node. -/
def Node.toValue : Node → Value
  | .value v => v
  | .table _ entries => .table (entriesToValues entries)
  | .tables elements => .array (elementsToValues elements).reverse

/-- The values of the entries of a table. -/
def entriesToValues : List (String × Node) → List (String × Value)
  | [] => []
  | (key, node) :: entries => (key, node.toValue) :: entriesToValues entries

/-- The values of the tables of an array, in the given order. -/
def elementsToValues : List (List (String × Node)) → List Value
  | [] => []
  | entries :: elements => .table (entriesToValues entries) :: elementsToValues elements

end

/-- A statement of a TOML file. -/
inductive Statement
  /-- A header: the entries that follow belong to the table at the path. -/
  | table (path : List String)
  /-- A header that begins a new table of an array. -/
  | element (path : List String)
  /-- A key, possibly dotted, and its value. -/
  | entry (path : List String) (v : Value)
deriving Repr

/-- The tree of tables, and the path of the table to which entries belong. -/
structure Assembly where
  entries : Entries := []
  current : List String := []

/-- The tree with what a statement adds; nothing when the statement may not add it. -/
def Assembly.add (a : Assembly) : Statement → Option Assembly
  | .table path => do
    let key ← path.getLast?
    return ⟨← atPath (addTable key) path.dropLast a.entries, path⟩
  | .element path => do
    let key ← path.getLast?
    return ⟨← atPath (addElement key) path.dropLast a.entries, path⟩
  | .entry path v => do
    return ⟨← atPath (addValue v path) a.current a.entries, a.current⟩

/-- The table that a row of statements describes; nothing when two of them conflict. -/
def assemble (statements : List Statement) : Option (List (String × Value)) :=
  (statements.foldlM Assembly.add {}).map fun a => entriesToValues a.entries

end LedgerSearch.Toml
