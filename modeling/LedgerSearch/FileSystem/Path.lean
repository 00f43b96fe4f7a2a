/-!
# `LedgerSearch.FileSystem.Path`: paths as they are written

A path is kept as it is written, since it is shown that way: nothing is normalised, and `..` is only
resolved by the file system that the path is looked up in. Empty and `.` components do not count
when two paths are compared, or when the directories above a path are listed.
-/

set_option autoImplicit false

namespace LedgerSearch.FileSystem

/-- A path as it is written. -/
structure Path where
  text : String
deriving DecidableEq, Repr, Inhabited

namespace Path

/-! ### Components -/

/-- Where a path starts from. -/
inductive Start
  /-- The root, written `/`. -/
  | root
  /-- The current directory, written `.` in front of everything else. -/
  | here
  /-- The current directory, not written. -/
  | implicit
deriving DecidableEq, Repr

/-- The start of a path and what is written behind it. -/
def split (p : Path) : Start × List Char :=
  match p.text.toList with
  | '/' :: cs => (.root, cs)
  | ['.'] => (.here, [])
  | '.' :: '/' :: cs => (.here, cs)
  | cs => (.implicit, cs)

/-- The pieces between slashes. -/
def piecesOf (cs : List Char) : List (List Char) :=
  cs.splitOn '/'

/-- The piece leads nowhere else: it is empty or a dot. -/
def isIdle (piece : List Char) : Bool :=
  piece = [] || piece = ['.']

/-- The start and the components behind it. -/
def components (p : Path) : Start × List (List Char) :=
  let (start, cs) := p.split
  (start, (piecesOf cs).filter (!isIdle ·))

/-- The two paths have the same components. -/
def sameAs (p q : Path) : Bool :=
  match p.components, q.components with
  | (start, pieces), (start', pieces') => start = start' && pieces = pieces'

/-! ### Directories above a path -/

/-- The path with a start and pieces. -/
def ofPieces (start : Start) (pieces : List (List Char)) : Path :=
  let body := ['/'].intercalate pieces
  match start with
  | .root => ⟨String.ofList ('/' :: body)⟩
  | .here => ⟨String.ofList (if pieces = [] then ['.'] else '.' :: '/' :: body)⟩
  | .implicit => ⟨String.ofList body⟩

/-- The pieces of the paths above one, nearest first, all with their last piece first. -/
def above : List (List Char) → List (List (List Char))
  | [] => []
  | piece :: before =>
    if isIdle piece then above before else before.dropWhile isIdle :: above before

/-- The paths above a path, nearest first. -/
def parents (p : Path) : List Path :=
  let (start, cs) := p.split
  let named := (above (piecesOf cs).reverse).map fun pieces => ofPieces start pieces.reverse
  if start = .here then named ++ [⟨""⟩] else named

/-- The directory that holds what is at the path, written as the start of the path; the empty path
where there is none above. -/
def directory (p : Path) : Path :=
  p.parents.head?.getD ⟨""⟩

/-- The path and those above it, nearest first. -/
def ancestors (p : Path) : List Path :=
  p :: p.parents

/-! ### Joining -/

/-- A path looked up from a directory: an absolute one is taken as it is, any other is written
behind the directory and a slash. -/
def join (base p : Path) : Path :=
  match p.split.1 with
  | .root => p
  | _ =>
    if base.text.isEmpty || base.text.toList.getLast? = some '/' then ⟨base.text ++ p.text⟩
    else ⟨base.text ++ "/" ++ p.text⟩

end Path

end LedgerSearch.FileSystem
