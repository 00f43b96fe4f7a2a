import LedgerSearch.FileSystem.Basic
import LedgerSearch.Text.Bytes

/-!
# `LedgerSearch.FileSystem.Tree`: a file system held in memory

A tree maps the names that lead from the root to a node, and has a current directory. Paths are
resolved name by name: every name but the last must be that of a directory, `..` leads to the
directory above, and an empty or `.` component stays, so a path that ends in a slash leads to
directories only.
-/

set_option autoImplicit false

namespace LedgerSearch.FileSystem

/-- A directory or a file. -/
inductive Node
  | directory
  | file (content : Option String)
deriving DecidableEq, Repr, Inhabited

/-- The names on the way from the root to a node, last name first. -/
abbrev Place := List (List Char)

/-- A file system with a current directory. -/
structure Tree where
  /-- The nodes other than the root. -/
  nodes : List (Place × Node) := []
  /-- The current directory. -/
  here : Place := []

namespace Tree

/-! ### Looking up -/

/-- The node at a place. -/
def node? (t : Tree) (place : Place) : Option Node :=
  if place = [] then some .directory
  else (t.nodes.find? (·.1 = place)).map (·.2)

/-- The most bytes of a name. -/
def maxNameBytes : Nat := 255

/-- The most bytes of a path. -/
def maxPathBytes : Nat := 4095

/-- The place to which pieces lead from a place. -/
def walk (t : Tree) (place : Place) : List (List Char) → Except Fault Place
  | [] => .ok place
  | piece :: pieces =>
    match t.node? place with
    | none => .error .notFound
    | some (.file _) => .error .notADirectory
    | some .directory =>
      if Path.isIdle piece then walk t place pieces
      else if piece = ['.', '.'] then walk t place.tail pieces
      else if maxNameBytes < Text.byteLength piece then .error .nameTooLong
      else walk t (piece :: place) pieces

/-- The place from which a path starts. -/
def startOf (t : Tree) (p : Path) : Place :=
  match p.split.1 with
  | .root => []
  | _ => t.here

/-- The place to which a path leads. -/
def resolve (t : Tree) (p : Path) : Except Fault Place :=
  match p.text.toList with
  | [] => .error .notFound
  | cs =>
    if cs.contains '\x00' then .error .nulInPath
    else if maxPathBytes < Text.byteLength cs then .error .nameTooLong
    else t.walk (t.startOf p) (Path.piecesOf p.split.2)

/-- What each path leads to. -/
def view (t : Tree) : FileSystem := fun p =>
  match t.resolve p with
  | .error fault => .unreachable fault
  | .ok place =>
    match t.node? place with
    | none => .unreachable .notFound
    | some .directory => .directory
    | some (.file content) => .file (decoded content)

/-- The path of a place. -/
def pathOf (place : Place) : Path :=
  .ofPieces .root place.reverse

/-- The current directory, while it exists. -/
def cwd (t : Tree) : Except Fault Path :=
  match t.node? t.here with
  | some .directory => .ok (pathOf t.here)
  | _ => .error .notFound

/-! ### Changing -/

/-- The place to which pieces lead from a place where every directory on the way exists. -/
def placeFrom (place : Place) : List (List Char) → Place
  | [] => place
  | piece :: pieces =>
    if Path.isIdle piece then placeFrom place pieces
    else if piece = ['.', '.'] then placeFrom place.tail pieces
    else placeFrom (piece :: place) pieces

/-- The place of a path whose directories exist. -/
def placeOf (t : Tree) (p : Path) : Place :=
  placeFrom (t.startOf p) (Path.piecesOf p.split.2)

/-- The tree with a node at a place. -/
def put (t : Tree) (place : Place) (node : Node) : Tree :=
  { t with nodes := (place, node) :: t.nodes.filter (·.1 ≠ place) }

/-- The tree in which the pieces lead somewhere from a place: directories stand where nothing stood,
also at a name that `..` leaves again. With the tree comes the place to which the pieces lead. -/
def makeDirectories (t : Tree) (place : Place) : List (List Char) → Tree × Place
  | [] => (t, place)
  | piece :: pieces =>
    if Path.isIdle piece then t.makeDirectories place pieces
    else if piece = ['.', '.'] then t.makeDirectories place.tail pieces
    else
      match t.node? (piece :: place) with
      | some _ => t.makeDirectories (piece :: place) pieces
      | none => (t.put (piece :: place) .directory).makeDirectories (piece :: place) pieces

/-- The tree with a directory at a path. -/
def addDirectory (t : Tree) (p : Path) : Tree :=
  (t.makeDirectories (t.startOf p) (Path.piecesOf p.split.2)).1

/-- The tree with a file at a path. -/
def addFile (t : Tree) (p : Path) (content : Option String) : Tree :=
  let pieces := p.components.2
  let (t, place) := t.makeDirectories (t.startOf p) pieces.dropLast
  t.put (pieces.getLast?.toList ++ place) (.file content)

/-- The tree without what is at a path and below it. -/
def remove (t : Tree) (p : Path) : Tree :=
  let place := t.placeOf p
  { t with nodes := t.nodes.filter fun entry => !place.isSuffixOf entry.1 }

/-- The tree with its current directory at a path. -/
def changeDirectory (t : Tree) (p : Path) : Tree :=
  { t with here := t.placeOf p }

end Tree

end LedgerSearch.FileSystem
