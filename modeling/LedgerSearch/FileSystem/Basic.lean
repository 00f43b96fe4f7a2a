import LedgerSearch.FileSystem.Path

/-!
# `LedgerSearch.FileSystem.Basic`: what paths lead to

The program only reads. A file system is therefore what it answers for each path, and an environment
adds the two directories that paths are taken from. Nothing else of the surroundings enters the
results.
-/

set_option autoImplicit false

namespace LedgerSearch.FileSystem

/-- Why nothing can be read at a path. -/
inductive Fault
  | notFound
  /-- Something on the way is not a directory. -/
  | notADirectory
  | isADirectory
  | nameTooLong
  | denied
  /-- The path holds the character with code zero. -/
  | nulInPath
  /-- The bytes of the file are not UTF-8. -/
  | notText
  | other (description : String)
deriving DecidableEq, Repr, Inhabited

/-- A fault as it is reported. -/
def Fault.message : Fault → String
  | notFound => "No such file or directory (os error 2)"
  | denied => "Permission denied (os error 13)"
  | notADirectory => "Not a directory (os error 20)"
  | isADirectory => "Is a directory (os error 21)"
  | nameTooLong => "File name too long (os error 36)"
  | nulInPath => "file name contained an unexpected NUL byte"
  | notText => "stream did not contain valid UTF-8"
  | other description => description

/-- What a path leads to. -/
inductive Entry
  /-- A regular file: its text, or why it cannot be read. -/
  | file (content : Except Fault String)
  | directory
  | unreachable (fault : Fault)
deriving Repr, Inhabited

/-- The text of a file whose bytes could be read; there is none when they are not UTF-8. -/
def decoded : Option String → Except Fault String
  | some text => .ok text
  | none => .error .notText

end FileSystem

/-- What each path leads to. -/
abbrev FileSystem := FileSystem.Path → FileSystem.Entry

namespace FileSystem

/-- A regular file stands at the path. -/
def isFile (files : FileSystem) (p : Path) : Bool :=
  match files p with
  | .file _ => true
  | _ => false

/-- The text of the file at the path. -/
def readText (files : FileSystem) (p : Path) : Except Fault String :=
  match files p with
  | .file content => content
  | .directory => .error .isADirectory
  | .unreachable fault => .error fault

/-! ### Loading -/

/-- Why a file could not be loaded. -/
inductive LoadErrorKind
  | unreadable (fault : Fault)
  /-- The text is not of the expected form. -/
  | malformed
deriving DecidableEq, Repr

/-- A file that could not be loaded. -/
structure LoadError where
  path : Path
  kind : LoadErrorKind
deriving DecidableEq, Repr

/-- The error as it is reported, `what` naming what the file was to hold. -/
def LoadError.message (e : LoadError) (what : String) : String :=
  match e.kind with
  | .unreadable fault => "failed to read " ++ what ++ " " ++ e.path.text ++ ": " ++ fault.message
  | .malformed => "failed to parse " ++ what ++ " " ++ e.path.text

/-- What a text denotes that was read at the path. -/
def parseAt {α : Type} (parse : String → Option α) (p : Path) (text : String) :
    Except LoadError α :=
  match parse text with
  | none => .error ⟨p, .malformed⟩
  | some a => .ok a

/-- What the text of the file at the path denotes. -/
def load {α : Type} (files : FileSystem) (parse : String → Option α) (p : Path) :
    Except LoadError α :=
  match files.readText p with
  | .error fault => .error ⟨p, .unreadable fault⟩
  | .ok text => parseAt parse p text

end FileSystem

/-- The surroundings in which the program runs. -/
structure Environment where
  files : FileSystem
  /-- The current directory. -/
  cwd : FileSystem.Path
  /-- The home directory of the user, where it is known. -/
  home : Option FileSystem.Path

end LedgerSearch
