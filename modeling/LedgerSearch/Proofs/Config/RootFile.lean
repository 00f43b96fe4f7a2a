import LedgerSearch.Proofs.Config.Discovery

/-!
# `LedgerSearch.Proofs.Config.RootFile`: nothing beyond a root file matters

A directory can be closed off from the configuration above it by a file that says it is the root.
That is a promise about files that are not there to be looked at: whatever stands in the directories
farther away or in the home directory, be it sound, malformed or missing, the settings in effect are
the same.

Two file systems are compared that need to have nothing in common but the configuration files from
the current directory up to the root file (`AgreeUpToRoot`). `load_congr_of_root` states that the
same files are found in both and that loading them gives the same settings or the same error. The
walk up the directories is over at the root file (`upToRoot_of_declaresRoot`), and so the home
directory, which comes behind the walk, is not looked at even where it lies on the way. Loading
reads the listed files only (`loadFiles_congr`).
-/

set_option autoImplicit false

namespace LedgerSearch.Config

open FileSystem (Path)

/-- The directory holds a regular file that can be read as a configuration and says that it is the
root. -/
def DeclaresRoot (files : FileSystem) (directory : Path) : Prop :=
  files.isFile (fileIn directory) = true ∧ ∃ text sections,
    files.readText (fileIn directory) = .ok text ∧ Sections.parse text = some sections ∧
      sections.root = some true

/-- Both file systems have a configuration file in the directory, with the same content, or neither
has one. -/
def AgreeIn (files files' : FileSystem) (directory : Path) : Prop :=
  files.isFile (fileIn directory) = files'.isFile (fileIn directory) ∧
    (files.isFile (fileIn directory) = true →
      files.readText (fileIn directory) = files'.readText (fileIn directory))

/-- The file systems agree in the directory and in those above it, up to the first that declares
itself the root. There is such a directory. -/
def AgreeUpToRoot (files files' : FileSystem) (cwd : Path) : Prop :=
  ∃ near root beyond, cwd.ancestors = near ++ root :: beyond ∧
    (∀ directory ∈ near, ¬ DeclaresRoot files directory) ∧ DeclaresRoot files root ∧
    ∀ directory ∈ near ++ [root], AgreeIn files files' directory

variable {files files' : FileSystem}

/-! ### The walk -/

theorem load_congr {α : Type} {p : Path} (h : files.readText p = files'.readText p)
    (parse : String → Option α) : files.load parse p = files'.load parse p := by
  rw [FileSystem.load, FileSystem.load, h]

theorem declaresRoot_iff {directory : Path} :
    DeclaresRoot files directory ↔
      files.isFile (fileIn directory) = true ∧ SaysRoot files (fileIn directory) := by
  rw [DeclaresRoot, SaysRoot]
  refine and_congr_right fun _ => ?_
  constructor
  · rintro ⟨text, sections, htext, hparse, hroot⟩
    exact ⟨sections, ⟨text, htext, hparse⟩, hroot⟩
  · rintro ⟨sections, ⟨text, htext, hparse⟩, hroot⟩
    exact ⟨text, sections, htext, hparse, hroot⟩

/-- The configuration files of directories, nearest first, are those up to the first root. -/
theorem upToRoot_of_declaresRoot {near : List Path} {root : Path} (beyond : List Path)
    (hnear : ∀ directory ∈ near, ¬ DeclaresRoot files directory) (hroot : DeclaresRoot files root) :
    upToRoot files (((near ++ root :: beyond).map fileIn).filter files.isFile)
      = (((near ++ [root]).map fileIn).filter files.isFile, true) := by
  obtain ⟨hfile, hsays⟩ := declaresRoot_iff.mp hroot
  have hrootless : ∀ p ∈ (near.map fileIn).filter files.isFile, ¬ SaysRoot files p := by
    intro p hp hsays
    obtain ⟨hp, hfile⟩ := List.mem_filter.mp hp
    obtain ⟨directory, hd, rfl⟩ := List.mem_map.mp hp
    exact hnear directory hd (declaresRoot_iff.mpr ⟨hfile, hsays⟩)
  rw [List.map_append, List.filter_append, List.map_cons, List.filter_cons_of_pos hfile,
    upToRoot_rooted _ hrootless hsays, List.map_append, List.filter_append, List.map_singleton,
    List.filter_cons_of_pos hfile, List.filter_nil]

/-- Behind a root file no file is looked for, not even in the home directory. -/
theorem discover_of_declaresRoot {cwd : Path} (home : Option Path) {near beyond : List Path}
    {root : Path} (hcwd : cwd.ancestors = near ++ root :: beyond)
    (hnear : ∀ directory ∈ near, ¬ DeclaresRoot files directory) (hroot : DeclaresRoot files root) :
    discover ⟨files, cwd, home⟩ = ((near ++ [root]).map fileIn).filter files.isFile := by
  rw [discover, candidates, hcwd, upToRoot_of_declaresRoot beyond hnear hroot]
  rfl

/-! ### Loading -/

/-- Loading depends on nothing but the texts of the listed files. -/
theorem loadFiles_congr {paths : List Path}
    (h : ∀ p ∈ paths, files.readText p = files'.readText p) :
    loadFiles files paths = loadFiles files' paths := by
  have hsources : (paths.mapM fun p => return Source.mk p (← files.load Sections.parse p))
      = paths.mapM fun p => return Source.mk p (← files'.load Sections.parse p) := by
    induction paths with
    | nil => rfl
    | cons p ps ih =>
        have ih := ih fun q hq => h q (List.mem_cons_of_mem p hq)
        rw [List.mapM_cons, List.mapM_cons, ih, load_congr (h p List.mem_cons_self)]
  rw [loadFiles, loadFiles, hsources]

/-- The file in the directory declares the root in both file systems, or in neither. -/
theorem AgreeIn.declaresRoot_iff {directory : Path} (h : AgreeIn files files' directory) :
    DeclaresRoot files directory ↔ DeclaresRoot files' directory := by
  obtain ⟨hfile, htext⟩ := h
  constructor
  · rintro ⟨hisFile, hroot⟩
    exact ⟨hfile ▸ hisFile, htext hisFile ▸ hroot⟩
  · rintro ⟨hisFile, hroot⟩
    have hisFile : files.isFile (fileIn directory) = true := hfile ▸ hisFile
    exact ⟨hisFile, htext hisFile ▸ hroot⟩

/-- **A root file shields from everything beyond it.** Where two file systems agree on the
configuration files up to the first root, the same files are found in both, and loading gives the
same settings or the same error, whatever stands in the directories beyond and whichever directory
is the home directory. -/
theorem load_congr_of_root {cwd : Path} (h : AgreeUpToRoot files files' cwd)
    (home home' : Option Path) :
    discover ⟨files, cwd, home⟩ = discover ⟨files', cwd, home'⟩ ∧
      load ⟨files, cwd, home⟩ = load ⟨files', cwd, home'⟩ := by
  obtain ⟨near, root, beyond, hcwd, hnear, hroot, hagree⟩ := h
  have hnear' : ∀ directory ∈ near, ¬ DeclaresRoot files' directory := fun directory hd =>
    fun hroot' => hnear directory hd
      ((hagree directory (List.mem_append_left _ hd)).declaresRoot_iff.mpr hroot')
  have hroot' : DeclaresRoot files' root :=
    (hagree root (List.mem_append_right _ List.mem_cons_self)).declaresRoot_iff.mp hroot
  have hfound := discover_of_declaresRoot home hcwd hnear hroot
  have hfound' := discover_of_declaresRoot home' hcwd hnear' hroot'
  have hdiscover : discover ⟨files, cwd, home⟩ = discover ⟨files', cwd, home'⟩ := by
    rw [hfound, hfound']
    refine List.filter_congr fun p hp => ?_
    obtain ⟨directory, hd, rfl⟩ := List.mem_map.mp hp
    exact (hagree directory hd).1
  refine ⟨hdiscover, ?_⟩
  rw [load, load, ← hdiscover]
  -- only files that were found are read
  refine loadFiles_congr fun p hp => ?_
  rw [hfound, List.mem_filter] at hp
  obtain ⟨directory, hd, rfl⟩ := List.mem_map.mp hp.1
  exact (hagree directory hd).2 hp.2

/-- A file that cannot be parsed in `/home/ana`, a root file in `/home`, and at the top whatever is
given. -/
def householdFiles (top : FileSystem.Entry) : FileSystem := fun p =>
  if p = ⟨"/home/ana/.tally.toml"⟩ then .file (.ok "root = [")
  else if p = ⟨"/home/.tally.toml"⟩ then .file (.ok "root = true")
  else if p = ⟨"/.tally.toml"⟩ then top
  else .unreachable .notFound

/-- At the top stands a file that is not UTF-8, or nothing. In the second case the top is the home
directory as well. Both times loading fails at the file in the current directory, which is no
root. -/
theorem load_congr_of_root_household :
    let files := householdFiles (.file (.error .notText))
    let files' := householdFiles (.unreachable .notFound)
    let cwd : Path := ⟨"/home/ana"⟩
    AgreeUpToRoot files files' cwd ∧
      discover ⟨files, cwd, none⟩ = discover ⟨files', cwd, some ⟨"/"⟩⟩ ∧
      load ⟨files, cwd, none⟩ = load ⟨files', cwd, some ⟨"/"⟩⟩ ∧
      discover ⟨files, cwd, none⟩ = [⟨"/home/ana/.tally.toml"⟩, ⟨"/home/.tally.toml"⟩] ∧
      load ⟨files, cwd, none⟩ = .error ⟨⟨"/home/ana/.tally.toml"⟩, .malformed⟩ := by
  intro files files' cwd
  have hnear : fileIn cwd = ⟨"/home/ana/.tally.toml"⟩ := by decide
  have hroot : fileIn ⟨"/home"⟩ = ⟨"/home/.tally.toml"⟩ := by decide
  have hbroken : Sections.parse "root = [" = none := by cbv
  have hsound : Sections.parse "root = true" = some { root := some true } := by cbv
  have hnot : ∀ directory ∈ [cwd], ¬ DeclaresRoot files directory := by
    rintro directory hd ⟨-, text, sections, htext, hparse, -⟩
    obtain rfl := List.mem_singleton.mp hd
    rw [hnear] at htext
    cases htext
    exact absurd (hbroken.symm.trans hparse) (by simp)
  have hdeclares : DeclaresRoot files ⟨"/home"⟩ := by
    rw [DeclaresRoot, hroot]
    exact ⟨rfl, _, _, rfl, hsound, rfl⟩
  have hagree : AgreeUpToRoot files files' cwd := by
    refine ⟨[cwd], ⟨"/home"⟩, [⟨"/"⟩], by decide, hnot, hdeclares, ?_⟩
    intro directory hd
    obtain rfl | rfl : directory = cwd ∨ directory = ⟨"/home"⟩ := by simpa using hd
    · rw [AgreeIn, hnear]
      exact ⟨rfl, fun _ => rfl⟩
    · rw [AgreeIn, hroot]
      exact ⟨rfl, fun _ => rfl⟩
  have hfound : discover ⟨files, cwd, none⟩
      = [⟨"/home/ana/.tally.toml"⟩, ⟨"/home/.tally.toml"⟩] := by
    have hwalk : cwd.ancestors = [cwd] ++ ⟨"/home"⟩ :: [⟨"/"⟩] := by decide
    rw [discover_of_declaresRoot none hwalk hnot hdeclares]
    decide
  have hfails : files.load Sections.parse ⟨"/home/ana/.tally.toml"⟩
      = .error ⟨⟨"/home/ana/.tally.toml"⟩, .malformed⟩ := by
    show FileSystem.parseAt Sections.parse _ "root = [" = _
    rw [FileSystem.parseAt, hbroken]
  obtain ⟨hdiscover, hload⟩ := load_congr_of_root hagree none (some ⟨"/"⟩)
  refine ⟨hagree, hdiscover, hload, hfound, ?_⟩
  rw [load, hfound, loadFiles, List.mapM_cons, hfails]
  rfl

end LedgerSearch.Config
