import LedgerSearch.Config.Source

/-!
# `LedgerSearch.Config.Load`: finding and loading the configuration

The configuration files of a directory are those named `.tally.toml` in it and in the directories
above it, nearest first, up to the first that says it is the root. Without a root file, the one in
the home directory comes last. A file that cannot be read or parsed is no root, and makes loading
fail.
-/

set_option autoImplicit false

namespace LedgerSearch.Config

/-- The name of configuration files. -/
def fileName : String := ".tally.toml"

/-- The configuration file in a directory. -/
def fileIn (directory : FileSystem.Path) : FileSystem.Path :=
  directory.join ⟨fileName⟩

/-- The configuration file in the home directory. -/
def globalFile (home : Option FileSystem.Path) : Option FileSystem.Path :=
  home.map fileIn

/-- The path is that of the configuration file in the home directory. -/
def isGlobal (env : Environment) (p : FileSystem.Path) : Bool :=
  (globalFile env.home).any p.sameAs

/-- The file says that files farther away are not to be looked at. -/
def isRoot (files : FileSystem) (p : FileSystem.Path) : Bool :=
  match files.load Sections.parse p with
  | .ok sections => sections.root = some true
  | .error _ => false

/-! ### Discovery -/

/-- Where configuration files may stand in a directory and above it, nearest first. -/
def candidates (cwd : FileSystem.Path) : List FileSystem.Path :=
  cwd.ancestors.map fileIn

/-- The paths up to the first root, and whether there is one. -/
def upToRoot (files : FileSystem) : List FileSystem.Path → List FileSystem.Path × Bool
  | [] => ([], false)
  | p :: ps =>
    if isRoot files p then ([p], true)
    else
      let (found, rooted) := upToRoot files ps
      (p :: found, rooted)

/-- The configuration files in effect, highest precedence first. -/
def discover (env : Environment) : List FileSystem.Path :=
  let (found, rooted) := upToRoot env.files ((candidates env.cwd).filter env.files.isFile)
  let global :=
    (globalFile env.home).toList.filter fun p => env.files.isFile p && !found.any p.sameAs
  if rooted then found else found ++ global

/-! ### Loading -/

/-- The settings that the files at the paths give together, highest precedence first. The error is
that of the first file that cannot be loaded. -/
def loadFiles (files : FileSystem) (paths : List FileSystem.Path) :
    Except FileSystem.LoadError Config := do
  let sources ← paths.mapM fun p => return Source.mk p (← files.load Sections.parse p)
  return merge sources

/-- The settings in effect. -/
def load (env : Environment) : Except FileSystem.LoadError Config :=
  loadFiles env.files (discover env)

end LedgerSearch.Config
