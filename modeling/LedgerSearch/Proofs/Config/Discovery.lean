import LedgerSearch.Config.Load
import LedgerSearch.Proofs.FileSystem.Path
import Mathlib

/-!
# `LedgerSearch.Proofs.Config.Discovery`: which files settle the configuration, and how

Three things have to fit together before a setting is in effect: the walk up the directories, which
stops at a root file, the reading of the files it found, which stops at the first that fails, and
the choice among what they set, which goes to the first that sets a field. Each is stated here
without the loop that carries it out. `Discovered` says which files are in effect, `FirstFails`
which of them an error is about, and `Settles` where each field of the configuration is from.
`discover_load_exact` states that discovery and loading do just that, in every environment.

Each kind of file is looked at twice, once to find out whether it is a root and once to load it, and
a file that fails is no root. So the two only agree because the same text is read and parsed both
times (`isRoot_iff`, `Sets`).

That no file is listed twice is a fact about paths. The files on the way up have different
components because their directories have (`Path.nodup_components_ancestors`), and the file in the
home directory is compared by its components with each of those found before.
-/

set_option autoImplicit false

namespace LedgerSearch.Config

open FileSystem (Path LoadError LoadErrorKind)

/-! ### What is to hold -/

/-- The file is readable text and, as a configuration, sets the sections. -/
def Sets (files : FileSystem) (p : Path) (sections : Sections) : Prop :=
  ∃ text, files.readText p = .ok text ∧ Sections.parse text = some sections

/-- Why the file sets nothing: there is no text to be read, or it is no configuration. -/
def Fails (files : FileSystem) (p : Path) : LoadErrorKind → Prop
  | .unreadable fault => files.readText p = .error fault
  | .malformed => ∃ text, files.readText p = .ok text ∧ Sections.parse text = none

/-- The file says that it is the root. -/
def SaysRoot (files : FileSystem) (p : Path) : Prop :=
  ∃ sections, Sets files p sections ∧ sections.root = some true

/-- The configuration files in the current directory and above it, nearest first, whether or not
they are in effect. -/
def filesUpwards (env : Environment) : List Path :=
  (env.cwd.ancestors.map fileIn).filter env.files.isFile

/-- The configuration files in effect, highest precedence first. -/
inductive Discovered (env : Environment) : List Path → Prop
  /-- The first root file ends the list. -/
  | rooted {near beyond : List Path} {root : Path}
      (hfiles : filesUpwards env = near ++ root :: beyond)
      (hnear : ∀ p ∈ near, ¬ SaysRoot env.files p) (hroot : SaysRoot env.files root) :
      Discovered env (near ++ [root])
  /-- The file in the home directory comes last. -/
  | global {home : Path} (hrootless : ∀ p ∈ filesUpwards env, ¬ SaysRoot env.files p)
      (hhome : env.home = some home) (hfile : env.files.isFile (fileIn home) = true)
      (hnew : ∀ p ∈ filesUpwards env, p.sameAs (fileIn home) = false) :
      Discovered env (filesUpwards env ++ [fileIn home])
  /-- There is none in the home directory, or it has been found on the way. -/
  | upwards (hrootless : ∀ p ∈ filesUpwards env, ¬ SaysRoot env.files p)
      (hhome : ∀ home, env.home = some home → env.files.isFile (fileIn home) = true →
        ∃ p ∈ filesUpwards env, p.sameAs (fileIn home) = true) :
      Discovered env (filesUpwards env)

/-- The error is about the first of the files that cannot be loaded. -/
def FirstFails (files : FileSystem) (paths : List Path) (e : LoadError) : Prop :=
  ∃ near far, paths = near ++ e.path :: far ∧
    (∀ p ∈ near, ∃ sections, Sets files p sections) ∧ Fails files e.path e.kind

/-- What the first of the files that sets a field sets it to; nothing where none of them does. -/
def FirstSets {α : Type} (files : FileSystem) (field : Path → Sections → Option α)
    (paths : List Path) : Option α → Prop
  | some a => ∃ near p far sections, paths = near ++ p :: far ∧ Sets files p sections ∧
      field p sections = some a ∧ ∀ q ∈ near, ∀ sections, Sets files q sections →
        field q sections = none
  | none => ∀ p ∈ paths, ∀ sections, Sets files p sections → field p sections = none

/-- Each field of the configuration is from the first of the files that sets it, or has its default
value. A ledger is looked up from the directory of the file that names it. -/
structure Settles (files : FileSystem) (paths : List Path) (config : Config) : Prop where
  ledger : FirstSets files (fun p sections =>
    (sections.settings.bind (·.ledger)).map fun text => p.directory.join ⟨text⟩) paths config.ledger
  implicitAnd : ∃ choice, config.implicitAnd = choice.getD true ∧
    FirstSets files (fun _ sections => sections.search.bind (·.implicitAnd)) paths choice
  fallback : ∃ choice, config.fallback = choice.getD true ∧
    FirstSets files (fun _ sections => sections.search.bind (·.fallback)) paths choice
  root : config.root = paths.head?.map (·.directory)

/-! ### One file -/

section OneFile

variable {files : FileSystem} {p : Path}

theorem Sets.unique {sections sections' : Sections} (h : Sets files p sections)
    (h' : Sets files p sections') : sections = sections' := by
  obtain ⟨text, htext, hparse⟩ := h
  obtain ⟨text', htext', hparse'⟩ := h'
  obtain rfl : text = text' := Except.ok.inj (htext.symm.trans htext')
  exact Option.some.inj (hparse.symm.trans hparse')

theorem Fails.not_sets {kind : LoadErrorKind} (h : Fails files p kind) (sections : Sections) :
    ¬ Sets files p sections := by
  rintro ⟨text, htext, hparse⟩
  cases kind with
  | unreadable fault => simp [Fails, htext] at h
  | malformed => simp [Fails, htext, hparse] at h

theorem load_eq_ok_iff {sections : Sections} :
    files.load Sections.parse p = .ok sections ↔ Sets files p sections := by
  rw [FileSystem.load, Sets]
  cases files.readText p with
  | error fault => simp
  | ok text => cases hparse : Sections.parse text <;> simp [FileSystem.parseAt, hparse]

theorem load_eq_error_iff {e : LoadError} :
    files.load Sections.parse p = .error e ↔ e.path = p ∧ Fails files p e.kind := by
  obtain ⟨path, kind⟩ := e
  rw [FileSystem.load]
  cases htext : files.readText p with
  | error fault => cases kind <;> simp [Fails, htext, eq_comm]
  | ok text =>
      cases hparse : Sections.parse text <;> cases kind <;>
        simp [Fails, FileSystem.parseAt, htext, hparse, eq_comm]

/-- A root file is one that loads and says so. -/
theorem isRoot_iff : isRoot files p = true ↔ SaysRoot files p := by
  rw [isRoot, SaysRoot]
  cases hload : files.load Sections.parse p with
  | error e =>
      have hfails := (load_eq_error_iff.mp hload).2
      have hpath := (load_eq_error_iff.mp hload).1
      subst hpath
      simp [hfails.not_sets]
  | ok sections =>
      have hsets := load_eq_ok_iff.mp hload
      constructor
      · intro hroot
        exact ⟨sections, hsets, by simpa using hroot⟩
      · rintro ⟨others, hothers, hroot⟩
        rw [hothers.unique hsets] at hroot
        simpa using hroot

end OneFile

/-! ### Discovery -/

section Walk

variable {files : FileSystem}

/-- The walk goes on past every file that is no root. -/
theorem upToRoot_append {near : List Path} (hnear : ∀ p ∈ near, ¬ SaysRoot files p)
    (ps : List Path) :
    upToRoot files (near ++ ps) = (near ++ (upToRoot files ps).1, (upToRoot files ps).2) := by
  induction near with
  | nil => rfl
  | cons p near ih =>
      have hp : isRoot files p = false := by
        rw [Bool.eq_false_iff]
        exact fun h => hnear p List.mem_cons_self (isRoot_iff.mp h)
      have ih := ih fun q hq => hnear q (List.mem_cons_of_mem p hq)
      rw [List.cons_append, upToRoot, hp, ih]
      rfl

theorem upToRoot_rooted {near : List Path} {root : Path} (beyond : List Path)
    (hnear : ∀ p ∈ near, ¬ SaysRoot files p) (hroot : SaysRoot files root) :
    upToRoot files (near ++ root :: beyond) = (near ++ [root], true) := by
  have hisRoot : isRoot files root = true := isRoot_iff.mpr hroot
  rw [upToRoot_append hnear, upToRoot, if_pos hisRoot]

theorem upToRoot_rootless {ps : List Path} (h : ∀ p ∈ ps, ¬ SaysRoot files p) :
    upToRoot files ps = (ps, false) := by
  have hall := upToRoot_append h []
  rwa [List.append_nil, upToRoot, List.append_nil] at hall

/-- Among any files there is a first root, or there is none at all. -/
theorem exists_first_root (files : FileSystem) (ps : List Path) :
    (∃ near root beyond, ps = near ++ root :: beyond ∧ (∀ p ∈ near, ¬ SaysRoot files p) ∧
      SaysRoot files root) ∨ ∀ p ∈ ps, ¬ SaysRoot files p := by
  induction ps with
  | nil => exact .inr (by simp)
  | cons p ps ih =>
      by_cases hp : SaysRoot files p
      · exact .inl ⟨[], p, ps, rfl, by simp, hp⟩
      · rcases ih with ⟨near, root, beyond, rfl, hnear, hroot⟩ | hnone
        · exact .inl ⟨p :: near, root, beyond, rfl, List.forall_mem_cons.mpr ⟨hp, hnear⟩, hroot⟩
        · exact .inr (List.forall_mem_cons.mpr ⟨hp, hnone⟩)

end Walk

section Discovery

variable {env : Environment}

theorem discover_rootless (h : ∀ p ∈ filesUpwards env, ¬ SaysRoot env.files p) :
    discover env = filesUpwards env ++ (globalFile env.home).toList.filter fun p =>
      env.files.isFile p && !(filesUpwards env).any p.sameAs := by
  rw [discover, candidates, ← filesUpwards, upToRoot_rootless h]
  rfl

/-- The file in the home directory is left out just when it is no file or has been found. -/
theorem any_sameAs_iff {ps : List Path} {global : Path} :
    ps.any global.sameAs = true ↔ ∃ p ∈ ps, p.sameAs global = true := by
  simp [List.any_eq_true, Path.sameAs_comm global]

theorem Discovered.eq_discover {paths : List Path} (h : Discovered env paths) :
    paths = discover env := by
  cases h with
  | rooted hfiles hnear hroot =>
      rw [discover, candidates, ← filesUpwards, hfiles, upToRoot_rooted _ hnear hroot]
      rfl
  | @global home hrootless hhome hfile hnew =>
      have hany : (filesUpwards env).any (fileIn home).sameAs = false := by
        rw [Bool.eq_false_iff, ne_eq, any_sameAs_iff]
        rintro ⟨p, hp, hsame⟩
        simp [hnew p hp] at hsame
      simp [discover_rootless hrootless, hhome, globalFile, hfile, hany]
  | upwards hrootless hhome =>
      rw [discover_rootless hrootless]
      cases hknown : env.home with
      | none => simp [globalFile]
      | some home =>
          cases hfile : env.files.isFile (fileIn home) with
          | false => simp [globalFile, hfile]
          | true =>
              have hany := any_sameAs_iff.mpr (hhome home hknown hfile)
              simp [globalFile, hany]

theorem exists_discovered (env : Environment) : ∃ paths, Discovered env paths := by
  rcases exists_first_root env.files (filesUpwards env) with
    ⟨near, root, beyond, hfiles, hnear, hroot⟩ | hrootless
  · exact ⟨_, .rooted hfiles hnear hroot⟩
  by_cases hnew : ∃ home, env.home = some home ∧ env.files.isFile (fileIn home) = true ∧
      ∀ p ∈ filesUpwards env, p.sameAs (fileIn home) = false
  · obtain ⟨home, hhome, hfile, hnew⟩ := hnew
    exact ⟨_, .global hrootless hhome hfile hnew⟩
  · refine ⟨_, .upwards hrootless fun home hhome hfile => ?_⟩
    by_contra hnone
    refine hnew ⟨home, hhome, hfile, fun p hp => ?_⟩
    rw [Bool.eq_false_iff]
    exact fun hsame => hnone ⟨p, hp, hsame⟩

theorem discovered_iff {paths : List Path} : Discovered env paths ↔ paths = discover env := by
  constructor
  · exact Discovered.eq_discover
  · rintro rfl
    obtain ⟨paths, h⟩ := exists_discovered env
    rwa [← h.eq_discover]

/-- Every listed path is that of a file in the current directory, above it or in the home
directory. -/
theorem exists_fileIn_of_mem_discover {p : Path} (h : p ∈ discover env) :
    ∃ directory, p = fileIn directory ∧
      (directory ∈ env.cwd.ancestors ∨ env.home = some directory) := by
  have hupwards : ∀ q ∈ filesUpwards env, ∃ directory, q = fileIn directory ∧
      (directory ∈ env.cwd.ancestors ∨ env.home = some directory) := by
    intro q hq
    obtain ⟨directory, hdirectory, rfl⟩ := List.mem_map.mp (List.mem_filter.mp hq).1
    exact ⟨directory, rfl, .inl hdirectory⟩
  obtain ⟨paths, hpaths⟩ := exists_discovered env
  rw [← hpaths.eq_discover] at h
  cases hpaths with
  | rooted hfiles =>
      refine hupwards p ?_
      rw [hfiles]
      rcases List.mem_append.mp h with h | h
      · exact List.mem_append_left _ h
      · exact List.mem_append_right _ (List.mem_singleton.mp h ▸ List.mem_cons_self)
  | @global home _ hhome =>
      rcases List.mem_append.mp h with h | h
      · exact hupwards p h
      · exact ⟨home, List.mem_singleton.mp h, .inr hhome⟩
  | upwards => exact hupwards p h

/-! ### No file twice -/

theorem components_fileIn (directory : Path) :
    (fileIn directory).components
      = (directory.components.1, directory.components.2 ++ [fileName.toList]) := by
  have hname : Path.components ⟨fileName⟩ = (.implicit, [fileName.toList]) := by decide
  rw [fileIn, Path.components_join directory (by decide), hname]

/-- The files on the way up are all different, since their directories are. -/
theorem pairwise_filesUpwards (env : Environment) :
    (filesUpwards env).Pairwise fun p q => p.sameAs q = false := by
  have hancestors : env.cwd.ancestors.Pairwise fun d d' => d.components ≠ d'.components :=
    List.pairwise_map.mp (Path.nodup_components_ancestors env.cwd)
  refine List.Pairwise.filter _ (List.pairwise_map.mpr (hancestors.imp fun {d d'} hne => ?_))
  rw [Bool.eq_false_iff, ne_eq, Path.sameAs_iff, components_fileIn, components_fileIn]
  intro heq
  obtain ⟨hstart, hnames⟩ := Prod.mk.inj heq
  exact hne (Prod.ext hstart (List.append_cancel_right hnames))

theorem pairwise_discover (env : Environment) :
    (discover env).Pairwise fun p q => p.sameAs q = false := by
  have hupwards := pairwise_filesUpwards env
  obtain ⟨paths, h⟩ := exists_discovered env
  rw [← h.eq_discover]
  cases h with
  | rooted hfiles hnear hroot =>
      refine hupwards.sublist ?_
      rw [hfiles]
      exact List.Sublist.append_left (List.singleton_sublist.mpr List.mem_cons_self) _
  | global hrootless hhome hfile hnew =>
      refine List.pairwise_append.mpr ⟨hupwards, List.pairwise_singleton _ _, fun p hp q hq => ?_⟩
      rw [List.mem_singleton.mp hq]
      exact hnew p hp
  | upwards hrootless hhome => exact hupwards

/-- The home directory lies on the way up, though it is written in another way. -/
example :
    discover ⟨fun _ => .file (.error .notText), ⟨"/home/ana/books"⟩, some ⟨"/home//ana/."⟩⟩
      = [⟨"/home/ana/books/.tally.toml"⟩, ⟨"/home/ana/.tally.toml"⟩, ⟨"/home/.tally.toml"⟩,
        ⟨"/.tally.toml"⟩] := by decide

end Discovery

/-! ### Reading the files -/

section Reading

variable {files : FileSystem} {paths : List Path}

/-- The files at the paths as they are read, in their order. -/
def readSources (files : FileSystem) (paths : List Path) : Except LoadError (List Source) :=
  paths.mapM fun p => return Source.mk p (← files.load Sections.parse p)

theorem loadFiles_eq_map (files : FileSystem) (paths : List Path) :
    loadFiles files paths = (readSources files paths).map merge := by
  rw [loadFiles, ← readSources]
  cases readSources files paths <;> rfl

theorem readSources_cons_of_error {p : Path} {e : LoadError}
    (h : files.load Sections.parse p = .error e) :
    readSources files (p :: paths) = .error e := by
  rw [readSources, List.mapM_cons, h]
  rfl

theorem readSources_cons_of_sets {p : Path} {sections : Sections} (h : Sets files p sections) :
    readSources files (p :: paths) = (readSources files paths).map (⟨p, sections⟩ :: ·) := by
  rw [readSources, List.mapM_cons, load_eq_ok_iff.mpr h, ← readSources]
  cases readSources files paths <;> rfl

/-- The files are all read, or the first that cannot be makes the reading fail. -/
theorem readSources_cases (files : FileSystem) (paths : List Path) :
    (∃ sources, readSources files paths = .ok sources ∧ sources.map (·.path) = paths ∧
        ∀ s ∈ sources, Sets files s.path s.sections) ∨
      ∃ e, readSources files paths = .error e ∧ FirstFails files paths e := by
  induction paths with
  | nil => exact .inl ⟨[], rfl, rfl, by simp⟩
  | cons p ps ih =>
      cases hload : files.load Sections.parse p with
      | error e =>
          obtain ⟨hpath, hfails⟩ := load_eq_error_iff.mp hload
          refine .inr ⟨e, readSources_cons_of_error hload, [], ps, ?_, by simp, ?_⟩
          · rw [hpath, List.nil_append]
          · rwa [hpath]
      | ok sections =>
          have hsets := load_eq_ok_iff.mp hload
          rcases ih with ⟨sources, hsources, hpaths, hall⟩ | ⟨e, he, near, far, hps, hnear, hfails⟩
          · refine .inl ⟨⟨p, sections⟩ :: sources, ?_, ?_, List.forall_mem_cons.mpr ⟨hsets, hall⟩⟩
            · rw [readSources_cons_of_sets hsets, hsources]
              rfl
            · rw [List.map_cons, hpaths]
          · refine .inr ⟨e, ?_, p :: near, far, ?_, ?_, hfails⟩
            · rw [readSources_cons_of_sets hsets, he]
              rfl
            · rw [hps, List.cons_append]
            · exact List.forall_mem_cons.mpr ⟨⟨sections, hsets⟩, hnear⟩

theorem FirstFails.readSources_eq {e : LoadError} (h : FirstFails files paths e) :
    readSources files paths = .error e := by
  obtain ⟨near, far, rfl, hnear, hfails⟩ := h
  induction near with
  | nil => exact readSources_cons_of_error (load_eq_error_iff.mpr ⟨rfl, hfails⟩)
  | cons p near ih =>
      obtain ⟨sections, hsets⟩ := hnear p List.mem_cons_self
      have ih := ih fun q hq => hnear q (List.mem_cons_of_mem p hq)
      rw [List.cons_append, readSources_cons_of_sets hsets, ih]
      rfl

/-- Not all files can be loaded when there is a first that cannot. -/
theorem FirstFails.not_all {e : LoadError} (h : FirstFails files paths e) :
    ¬ ∀ p ∈ paths, ∃ sections, Sets files p sections := by
  obtain ⟨near, far, rfl, -, hfails⟩ := h
  intro hall
  obtain ⟨sections, hsets⟩ := hall e.path (by simp)
  exact hfails.not_sets sections hsets

theorem loadFiles_eq_error_iff {e : LoadError} :
    loadFiles files paths = .error e ↔ FirstFails files paths e := by
  rw [loadFiles_eq_map]
  constructor
  · intro h
    rcases readSources_cases files paths with ⟨sources, hsources, -⟩ | ⟨e', he', hfirst⟩
    · rw [hsources] at h
      cases h
    · rw [he'] at h
      cases h
      exact hfirst
  · intro h
    rw [h.readSources_eq]
    rfl

/-! ### The choice among the files -/

/-- Among files that have been read, the first that sets a field is found by its sections. -/
theorem firstSets_iff {α : Type} {sources : List Source}
    (h : ∀ s ∈ sources, Sets files s.path s.sections) (field : Path → Sections → Option α)
    {v : Option α} :
    FirstSets files field (sources.map (·.path)) v
      ↔ sources.findSome? (fun s => field s.path s.sections) = v := by
  cases v with
  | none =>
      rw [FirstSets, List.findSome?_eq_none_iff]
      constructor
      · intro hnone s hs
        exact hnone s.path (List.mem_map_of_mem hs) s.sections (h s hs)
      · intro hnone p hp sections hsets
        obtain ⟨s, hs, rfl⟩ := List.mem_map.mp hp
        rw [hsets.unique (h s hs)]
        exact hnone s hs
  | some a =>
      rw [FirstSets, List.findSome?_eq_some_iff]
      constructor
      · rintro ⟨near, p, far, sections, hpaths, hsets, hfield, hnear⟩
        obtain ⟨before, after, rfl, rfl, hafter⟩ := List.map_eq_append_iff.mp hpaths
        obtain ⟨s, behind, rfl, rfl, rfl⟩ := List.map_eq_cons_iff.mp hafter
        have hsections := hsets.unique (h s (by simp))
        refine ⟨before, s, behind, rfl, hsections ▸ hfield, fun t ht => ?_⟩
        exact hnear t.path (List.mem_map_of_mem ht) t.sections (h t (by simp [ht]))
      · rintro ⟨before, s, behind, rfl, hfield, hbefore⟩
        refine ⟨before.map (·.path), s.path, behind.map (·.path), s.sections, by simp,
          h s (by simp), hfield, fun q hq sections hsets => ?_⟩
        obtain ⟨t, ht, rfl⟩ := List.mem_map.mp hq
        rw [hsets.unique (h t (by simp [ht]))]
        exact hbefore t ht

/-- What the files settle together is what merging them gives. -/
theorem settles_iff {sources : List Source} (h : ∀ s ∈ sources, Sets files s.path s.sections)
    {config : Config} :
    Settles files (sources.map (·.path)) config ↔ config = merge sources := by
  have hroot : (sources.map (·.path)).head?.map (·.directory)
      = sources.head?.map (·.path.directory) := by
    rw [List.head?_map, Option.map_map]
    rfl
  constructor
  · rintro ⟨hledger, ⟨choice, hand, hchoice⟩, ⟨choice', hfallback, hchoice'⟩, hconfig⟩
    rw [firstSets_iff h] at hledger hchoice hchoice'
    subst hchoice hchoice'
    obtain ⟨ledger, implicitAnd, fallback, root⟩ := config
    simp only at hledger hand hfallback hconfig
    rw [← hledger, hand, hfallback, hconfig, hroot]
    rfl
  · rintro rfl
    exact ⟨(firstSets_iff h _).mpr rfl, ⟨_, rfl, (firstSets_iff h _).mpr rfl⟩,
      ⟨_, rfl, (firstSets_iff h _).mpr rfl⟩, hroot.symm⟩

theorem loadFiles_eq_ok_iff {config : Config} :
    loadFiles files paths = .ok config ↔
      (∀ p ∈ paths, ∃ sections, Sets files p sections) ∧ Settles files paths config := by
  rw [loadFiles_eq_map]
  rcases readSources_cases files paths with ⟨sources, hsources, rfl, hall⟩ | ⟨e, he, hfirst⟩
  · have hpaths : ∀ p ∈ sources.map (·.path), ∃ sections, Sets files p sections := by
      intro p hp
      obtain ⟨s, hs, rfl⟩ := List.mem_map.mp hp
      exact ⟨s.sections, hall s hs⟩
    rw [hsources, settles_iff hall, eq_comm (a := config)]
    exact ⟨fun h => ⟨hpaths, Except.ok.inj h⟩, fun h => congrArg Except.ok h.2⟩
  · rw [he]
    exact ⟨fun h => (nomatch h), fun h => absurd h.1 hfirst.not_all⟩

theorem exists_loadFiles_eq_ok_iff :
    (∃ config, loadFiles files paths = .ok config) ↔
      ∀ p ∈ paths, ∃ sections, Sets files p sections := by
  constructor
  · rintro ⟨config, hconfig⟩
    exact (loadFiles_eq_ok_iff.mp hconfig).1
  · intro hall
    cases h : loadFiles files paths with
    | ok config => exact ⟨config, rfl⟩
    | error e => exact absurd hall (loadFiles_eq_error_iff.mp h).not_all

end Reading

/-! ### Absolute paths -/

section Absolute

variable {env : Environment} {config : Config}

/-- From absolute directories all listed paths and their directories are absolute. -/
theorem isAbsolute_directory_of_mem_discover (hcwd : env.cwd.IsAbsolute)
    (hhome : ∀ home, env.home = some home → home.IsAbsolute) {p : Path} (h : p ∈ discover env) :
    p.directory.IsAbsolute := by
  obtain ⟨directory, rfl, hdirectory⟩ := exists_fileIn_of_mem_discover h
  have habsolute : directory.IsAbsolute := by
    rcases hdirectory with hdirectory | hdirectory
    · exact hcwd.of_mem_ancestors hdirectory
    · exact hhome directory hdirectory
  have hcomponents := components_fileIn directory
  rw [Path.isAbsolute_iff_components,
    Path.components_directory (congrArg Prod.snd hcomponents), hcomponents]
  exact habsolute

/-- From absolute directories a loaded ledger path is absolute. -/
theorem isAbsolute_ledger (hcwd : env.cwd.IsAbsolute)
    (hhome : ∀ home, env.home = some home → home.IsAbsolute) (hload : load env = .ok config)
    {path : Path} (hledger : config.ledger = some path) : path.IsAbsolute := by
  have hsettles := (loadFiles_eq_ok_iff.mp hload).2
  have hfirst := hsettles.ledger
  rw [hledger] at hfirst
  obtain ⟨near, p, far, sections, hpaths, -, hfield, -⟩ := hfirst
  obtain ⟨text, -, rfl⟩ := Option.map_eq_some_iff.mp hfield
  have hp : p ∈ discover env := hpaths ▸ by simp
  exact (isAbsolute_directory_of_mem_discover hcwd hhome hp).join _

end Absolute

/-- **Discovery and loading are exact.** In every environment the files in effect are those on the
way up as far as the first root, and without a root those on the way up and the file in the home
directory, if there is one that has not been found; and no file is listed twice. Loading succeeds
just when each listed file is readable text and a configuration. Otherwise the error is about the
first that is not, and says which of the two it is. On success each field is from the first of the
files that sets it, or has its default value. -/
theorem discover_load_exact (env : Environment) :
    (∀ paths, paths = discover env ↔ Discovered env paths) ∧
      ((discover env).Pairwise fun p q => p.sameAs q = false) ∧
      ((∃ config, load env = .ok config) ↔
        ∀ p ∈ discover env, ∃ sections, Sets env.files p sections) ∧
      (∀ e, load env = .error e ↔ FirstFails env.files (discover env) e) ∧
      ∀ config, load env = .ok config ↔
        (∀ p ∈ discover env, ∃ sections, Sets env.files p sections) ∧
          Settles env.files (discover env) config :=
  ⟨fun _ => discovered_iff.symm, pairwise_discover env, exists_loadFiles_eq_ok_iff,
    fun _ => loadFiles_eq_error_iff, fun _ => loadFiles_eq_ok_iff⟩

end LedgerSearch.Config
