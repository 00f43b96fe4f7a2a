import LedgerSearch.Cli.Basic
import LedgerSearch.Proofs.Config.Discovery
import LedgerSearch.Proofs.Config.Printed

/-!
# `LedgerSearch.Proofs.Cli.ShowConfig`: the shown configuration as a configuration file

`config` shows the settings in effect as a configuration file, behind comments on the files they
come from. The settings themselves are always read back (`sectionsOf_toToml`), and the ledger is the
same wherever the file is saved, since a loaded ledger path is absolute. The comments are another
matter. They hold paths as they are, and a directory may have almost any name.

Where no path spans lines, `readsBack_config_iff` says exactly when the output is a file that sets
what is in effect: just when no listed path holds a control character other than a tab. The
directory shown behind the paths adds nothing to this, because it is written with what the first of
them is written with. A path that spans lines puts the rest of itself in a line of its own, where it
is read as TOML (`config_not_readsBack_of_lineBreak`).
-/

set_option autoImplicit false

namespace LedgerSearch.Cli

open Config (Sections discover fileIn merge printed sectionsOf)
open FileSystem (Path)
open Toml (isTextChar statements)

/-- The text is a configuration file, which sets what the configuration holds wherever it is
saved. -/
def ReadsBack (text : String) (config : Config) : Prop :=
  ∃ sections, Sections.parse text = some sections ∧ ∀ p,
    (merge [⟨p, sections⟩]).ledger = config.ledger ∧
      (merge [⟨p, sections⟩]).implicitAnd = config.implicitAnd ∧
      (merge [⟨p, sections⟩]).fallback = config.fallback

/-- The characters of the path stand for themselves in a comment: none is a control character other
than the tab. -/
def IsPlain (p : Path) : Prop :=
  ∀ c ∈ p.text.toList, isTextChar c = true

instance (p : Path) : Decidable (IsPlain p) :=
  inferInstanceAs (Decidable (∀ c ∈ p.text.toList, isTextChar c = true))

/-! ### Lines -/

theorem toList_textOf_cons (line : String) (lines : List String) (rest : List Char) :
    (Output.textOf (line :: lines)).toList ++ rest
      = line.toList ++ '\n' :: ((Output.textOf lines).toList ++ rest) := by
  have hbreak : "\n".toList = ['\n'] := by decide
  simp [Output.textOf, String.join_cons, hbreak]

theorem toList_textOf_append (lines lines' : List String) (rest : List Char) :
    (Output.textOf (lines ++ lines')).toList ++ rest
      = (Output.textOf lines).toList ++ ((Output.textOf lines').toList ++ rest) := by
  simp [Output.textOf, String.join_append]

/-- The line is empty or a comment. -/
def IsComment (line : String) : Prop :=
  (line.toList = [] ∨ line.toList.head? = some '#') ∧ ∀ c ∈ line.toList, isTextChar c = true

theorem statements_line {line : String} (h : IsComment line) (rest : List Char) :
    statements (line.toList ++ '\n' :: rest) = statements rest := by
  obtain ⟨hempty | hmark, htext⟩ := h
  · rw [hempty, List.nil_append, Toml.statements_lineBreak]
  · obtain ⟨cs, hcs⟩ := List.head?_eq_some_iff.mp hmark
    have htext : ∀ c ∈ cs, isTextChar c = true := fun c hc =>
      htext c (hcs ▸ List.mem_cons_of_mem '#' hc)
    rw [hcs, List.cons_append, Toml.statements_comment htext]

theorem statements_textOf {lines : List String} (h : ∀ line ∈ lines, IsComment line)
    (rest : List Char) :
    statements ((Output.textOf lines).toList ++ rest) = statements rest := by
  induction lines with
  | nil => rfl
  | cons line lines ih =>
      obtain ⟨hline, hlines⟩ := List.forall_mem_cons.mp h
      rw [toList_textOf_cons, statements_line hline, ih hlines]

/-! ### The lines on a path -/

theorem IsComment.append {front : String} (h : IsComment front) (hne : front.toList ≠ []) {p : Path}
    (hp : IsPlain p) : IsComment (front ++ p.text) := by
  obtain ⟨hmark, htext⟩ := h
  obtain ⟨cs, hcs⟩ := List.head?_eq_some_iff.mp (hmark.resolve_left hne)
  refine ⟨.inr (by simp [hcs]), fun c hc => ?_⟩
  rw [String.toList_append] at hc
  rcases List.mem_append.mp hc with hc | hc
  · exact htext c hc
  · exact hp c hc

theorem isComment_path {p : Path} (hp : IsPlain p) : IsComment ("#   " ++ p.text) :=
  IsComment.append (by simp [IsComment, isTextChar]) (by decide) hp

theorem isComment_root {p : Path} (hp : IsPlain p) : IsComment ("# config root: " ++ p.text) :=
  IsComment.append (by simp [IsComment, isTextChar]) (by decide) hp

theorem isComment_header : IsComment "# config files (highest precedence first):" := by
  simp [IsComment, isTextChar]

/-- The paths of configuration files end in a plain letter. -/
theorem exists_toList_fileIn (directory : Path) :
    ∃ front, (fileIn directory).text.toList = front ++ ['l'] := by
  have hname : Config.fileName.toList = ".tally.tom".toList ++ ['l'] := by decide
  rw [fileIn, Path.join]
  split
  · exact ⟨_, hname⟩
  · split_ifs
    · exact ⟨directory.text.toList ++ ".tally.tom".toList, by simp [hname]⟩
    · exact ⟨directory.text.toList ++ '/' :: ".tally.tom".toList, by simp [hname]⟩

/-- A path with a control character in it leaves the whole output without statements. -/
theorem statements_path {directory : Path} (hplain : ¬ IsPlain (fileIn directory))
    (hline : '\n' ∉ (fileIn directory).text.toList) (rest : List Char) :
    statements (("#   " ++ (fileIn directory).text).toList ++ '\n' :: rest) = none := by
  obtain ⟨front, hfront⟩ := exists_toList_fileIn directory
  have hcontrol : ∃ c ∈ [' ', ' ', ' '] ++ front, isTextChar c = false := by
    rw [IsPlain, hfront] at hplain
    push Not at hplain
    obtain ⟨c, hc, htext⟩ := hplain
    rcases List.mem_append.mp hc with hc | hc
    · exact ⟨c, List.mem_append_right _ hc, Bool.eq_false_iff.mpr htext⟩
    · rw [List.mem_singleton.mp hc] at htext
      exact absurd (by decide) htext
  have hbreak : '\n' ∉ [' ', ' ', ' '] ++ front ++ ['l'] := by
    rw [List.append_assoc, ← hfront]
    simpa using hline
  have htext : ("#   " ++ (fileIn directory).text).toList ++ '\n' :: rest
      = '#' :: ([' ', ' ', ' '] ++ front ++ 'l' :: '\n' :: rest) := by
    simp [hfront]
  rw [htext, Toml.statements_broken hbreak hcontrol]

/-! ### The lines on where the settings come from -/

theorem isComment_sourceLines {files : List Path} {root : Option Path}
    (hfiles : ∀ p ∈ files, IsPlain p) (hroot : ∀ p, root = some p → IsPlain p) :
    ∀ line ∈ sourceLines files root ++ [""], IsComment line := by
  have hlist : ∀ line ∈ (if files.isEmpty then ["# no config files found, showing defaults"]
      else "# config files (highest precedence first):" :: files.map fun p => "#   " ++ p.text),
      IsComment line := by
    split_ifs
    · exact List.forall_mem_singleton.mpr (by simp [IsComment, isTextChar])
    · refine List.forall_mem_cons.mpr ⟨isComment_header, ?_⟩
      intro line hline
      obtain ⟨p, hp, rfl⟩ := List.mem_map.mp hline
      exact isComment_path (hfiles p hp)
  intro line hline
  rcases List.mem_append.mp hline with hline | hline
  · rcases List.mem_append.mp hline with hline | hline
    · exact hlist line hline
    · obtain ⟨p, hp, rfl⟩ := List.mem_map.mp hline
      exact isComment_root (hroot p (Option.mem_toList.mp hp))
  · rw [List.mem_singleton.mp hline]
    simp [IsComment]

/-- The settings are read back from behind the comments. -/
theorem sectionsOf_showConfig {config : Config} {files : List Path}
    (hfiles : ∀ p ∈ files, IsPlain p) (hroot : ∀ p, config.root = some p → IsPlain p) :
    sectionsOf (showConfig config files).stdout.toList = some (printed config) := by
  have hlines := isComment_sourceLines hfiles hroot
  rw [← Config.sectionsOf_toToml config, sectionsOf, sectionsOf, showConfig, String.toList_append,
    statements_textOf hlines]

/-- The lines of paths leave nothing to be read when a path in them is not plain. -/
theorem statements_paths {files : List Path}
    (hfiles : ∀ p ∈ files, ∃ directory, p = fileIn directory)
    (hlines : ∀ p ∈ files, '\n' ∉ p.text.toList) (hplain : ¬ ∀ p ∈ files, IsPlain p)
    (rest : List Char) :
    statements ((Output.textOf (files.map fun p => "#   " ++ p.text)).toList ++ rest) = none := by
  induction files with
  | nil => simp at hplain
  | cons p files ih =>
      obtain ⟨hfile, hfiles⟩ := List.forall_mem_cons.mp hfiles
      obtain ⟨hline, hlines⟩ := List.forall_mem_cons.mp hlines
      rw [List.map_cons, toList_textOf_cons]
      by_cases hp : IsPlain p
      · -- the line is a comment, and it is another path that is not plain
        have hothers : ¬ ∀ q ∈ files, IsPlain q := fun h =>
          hplain (List.forall_mem_cons.mpr ⟨hp, h⟩)
        rw [statements_line (isComment_path hp), ih hfiles hlines hothers]
      · obtain ⟨directory, rfl⟩ := hfile
        exact statements_path hp hline _

/-- Behind a comment the output goes on with the listed paths. -/
theorem exists_statements_showConfig (config : Config) {files : List Path} (hne : files ≠ []) :
    ∃ rest, statements (showConfig config files).stdout.toList
      = statements ((Output.textOf (files.map fun p => "#   " ++ p.text)).toList ++ rest) := by
  have hempty : files.isEmpty = false := by simpa using hne
  rw [showConfig, sourceLines, hempty, String.toList_append, if_neg Bool.false_ne_true,
    List.append_assoc, List.cons_append, toList_textOf_cons, statements_line isComment_header,
    toList_textOf_append]
  exact ⟨_, rfl⟩

/-- The output cannot be read when a path in it is not plain. -/
theorem sectionsOf_showConfig_eq_none {config : Config} {files : List Path}
    (hfiles : ∀ p ∈ files, ∃ directory, p = fileIn directory)
    (hlines : ∀ p ∈ files, '\n' ∉ p.text.toList) (hplain : ¬ ∀ p ∈ files, IsPlain p) :
    sectionsOf (showConfig config files).stdout.toList = none := by
  have hne : files ≠ [] := by
    rintro rfl
    simp at hplain
  obtain ⟨rest, hrest⟩ := exists_statements_showConfig config hne
  rw [sectionsOf, hrest, statements_paths hfiles hlines hplain]
  rfl

/-! ### The command -/

section

variable {env : Environment} {config : Config}

/-- The shown directory is plain when the listed paths are. -/
theorem isPlain_root (hload : Config.load env = .ok config)
    (hplain : ∀ p ∈ discover env, IsPlain p) {root : Path} (hroot : config.root = some root) :
    IsPlain root := by
  have hsettles := (Config.loadFiles_eq_ok_iff.mp hload).2
  rw [hsettles.root] at hroot
  obtain ⟨p, hp, rfl⟩ := Option.map_eq_some_iff.mp hroot
  intro c hc
  rcases Path.mem_directory hc with rfl | rfl | hc
  · decide
  · decide
  · exact hplain p (List.mem_of_mem_head? hp) c hc

theorem run_config (hload : Config.load env = .ok config) (verbose : Bool) :
    Invocation.run env ⟨.config, verbose⟩ = showConfig config (discover env) := by
  rw [Invocation.run, hload]
  rfl

/-- The output begins with a comment, so no encoding mark is looked for. -/
theorem parse_showConfig (config : Config) (files : List Path) :
    Sections.parse (showConfig config files).stdout
      = sectionsOf (showConfig config files).stdout.toList := by
  have hfront : ∃ cs, (showConfig config files).stdout.toList = '#' :: cs := by
    rw [showConfig, sourceLines, String.toList_append]
    split_ifs
    · rw [List.append_assoc, List.singleton_append, toList_textOf_cons]
      exact ⟨_, rfl⟩
    · rw [List.append_assoc, List.cons_append, toList_textOf_cons]
      exact ⟨_, rfl⟩
  obtain ⟨cs, hcs⟩ := hfront
  exact Config.parse_eq_sectionsOf hcs (by decide)

/-- **When the shown configuration is a configuration file.** Loaded from absolute directories and
from files whose paths do not span lines, the settings in effect are read back from the output of
`config`, wherever it is saved, just when no listed path holds a control character other than a
tab. -/
theorem readsBack_config_iff (hcwd : env.cwd.IsAbsolute)
    (hhome : ∀ home, env.home = some home → home.IsAbsolute) (hload : Config.load env = .ok config)
    (hlines : ∀ p ∈ discover env, '\n' ∉ p.text.toList) (verbose : Bool) :
    ReadsBack (Invocation.run env ⟨.config, verbose⟩).stdout config ↔
      ∀ p ∈ discover env, IsPlain p := by
  rw [run_config hload, ReadsBack, parse_showConfig]
  constructor
  · rintro ⟨sections, hsections, -⟩
    by_contra hplain
    have hfiles : ∀ p ∈ discover env, ∃ directory, p = fileIn directory := by
      intro p hp
      obtain ⟨directory, hdirectory, -⟩ := Config.exists_fileIn_of_mem_discover hp
      exact ⟨directory, hdirectory⟩
    rw [sectionsOf_showConfig_eq_none hfiles hlines hplain] at hsections
    cases hsections
  · intro hplain
    have hroot : ∀ root, config.root = some root → IsPlain root := fun root =>
      isPlain_root hload hplain
    refine ⟨printed config, sectionsOf_showConfig hplain hroot, fun p => ?_⟩
    -- an absolute ledger path is the same wherever it is looked up from
    exact Config.merge_printed config (fun path => Config.isAbsolute_ledger hcwd hhome hload) p

end

/-! ### A single configuration file -/

/-- The file system with one file in it. -/
def oneFile (path : Path) (text : String) : FileSystem := fun p =>
  if p = path then .file (.ok text) else .unreachable .notFound

/-- A file that is no root and stands on the way up is loaded alone, if the home directory holds no
other. -/
theorem load_oneFile {path cwd home : Path} {text : String} {sections : Sections}
    (hparse : Sections.parse text = some sections) (hroot : sections.root = none)
    (hfiles : Config.filesUpwards ⟨oneFile path text, cwd, some home⟩ = [path])
    (hhome : fileIn home = path ∨ (oneFile path text).isFile (fileIn home) = false) :
    discover ⟨oneFile path text, cwd, some home⟩ = [path] ∧
      Config.load ⟨oneFile path text, cwd, some home⟩ = .ok (merge [⟨path, sections⟩]) := by
  have hsets : Config.Sets (oneFile path text) path sections := by
    refine ⟨text, ?_, hparse⟩
    rw [FileSystem.readText, oneFile, if_pos rfl]
  have hdiscovered : Config.Discovered ⟨oneFile path text, cwd, some home⟩ [path] := by
    rw [← hfiles]
    refine .upwards ?_ ?_
    · rw [hfiles]
      rintro p hp ⟨others, hothers, hsays⟩
      rw [List.mem_singleton.mp hp] at hothers
      rw [hothers.unique hsets, hroot] at hsays
      cases hsays
    · rintro home' hsome hfile
      obtain rfl := Option.some.inj hsome
      rcases hhome with hhome | hhome
      · exact ⟨path, by simp [hfiles], Path.sameAs_iff.mpr (by rw [hhome])⟩
      · simp [hhome] at hfile
  have hdiscover := hdiscovered.eq_discover
  refine ⟨hdiscover.symm, ?_⟩
  rw [Config.load, ← hdiscover, Config.loadFiles_eq_map, Config.readSources_cons_of_sets hsets]
  rfl

/-- Quotes in the name of the ledger do no harm. -/
theorem readsBack_config_iff_quotes :
    let path : Path := ⟨"/home/ana/.tally.toml"⟩
    let files := oneFile path "[settings]\nledger = '\"2024\".json'\n"
    let env : Environment := ⟨files, ⟨"/home/ana/books"⟩, some ⟨"/home/ana"⟩⟩
    ∃ config, Config.load env = .ok config ∧ config.ledger = some ⟨"/home/ana/\"2024\".json"⟩ ∧
      ReadsBack (Invocation.run env ⟨.config, false⟩).stdout config := by
  intro path files env
  have hparse : Sections.parse "[settings]\nledger = '\"2024\".json'\n"
      = some { settings := some ⟨some "\"2024\".json"⟩ } := by cbv
  have hfiles : Config.filesUpwards env = [path] := by decide
  have hhome : fileIn ⟨"/home/ana"⟩ = path := by decide
  obtain ⟨hdiscover, hload⟩ := load_oneFile hparse rfl hfiles (.inl hhome)
  refine ⟨_, hload, by decide, ?_⟩
  refine (readsBack_config_iff (by decide) ?_ hload ?_ false).mpr ?_
  · rintro home hhome
    obtain rfl := Option.some.inj hhome
    decide
  · rw [hdiscover]
    decide
  · rw [hdiscover]
    simp [path, IsPlain, isTextChar]

/-- A directory whose name spans lines puts half of its name in a line of its own, and no line of a
configuration file looks like that. -/
theorem config_not_readsBack_of_lineBreak :
    let path : Path := ⟨"/a\nb/.tally.toml"⟩
    let env : Environment :=
      ⟨oneFile path "[search]\nfallback = false\n", ⟨"/a\nb"⟩, some ⟨"/home/ana"⟩⟩
    ∃ config, env.cwd.IsAbsolute ∧ (∀ home, env.home = some home → home.IsAbsolute) ∧
      Config.load env = .ok config ∧
      Sections.parse (Invocation.run env ⟨.config, false⟩).stdout = none ∧
      ¬ ReadsBack (Invocation.run env ⟨.config, false⟩).stdout config := by
  intro path env
  have hparse : Sections.parse "[search]\nfallback = false\n"
      = some { search := some { fallback := some false } } := by cbv
  have hfiles : Config.filesUpwards env = [path] := by decide
  have hhome : env.files.isFile (fileIn ⟨"/home/ana"⟩) = false := by decide
  obtain ⟨hdiscover, hload⟩ := load_oneFile hparse rfl hfiles (.inr hhome)
  have hnone : Sections.parse (Invocation.run env ⟨.config, false⟩).stdout = none := by
    rw [run_config hload, hdiscover, parse_showConfig, sectionsOf]
    obtain ⟨rest, hrest⟩ := exists_statements_showConfig
      (merge [⟨path, { search := some { fallback := some false } }⟩]) (List.cons_ne_nil path [])
    have htext : ("#   " ++ path.text).toList
        = "#   /a".toList ++ '\n' :: ("b/".toList ++ '.' :: "tally.toml".toList) := by decide
    -- the second half of the name is no key, so the line that begins with it cannot be read
    rw [hrest, List.map_singleton, toList_textOf_cons, htext, List.append_assoc, List.cons_append,
      List.append_assoc, List.cons_append, statements_line (by simp [IsComment, isTextChar]),
      Toml.statements_bare (by simp [Toml.isMark]) (by simp) (by decide) (by decide)]
    rfl
  refine ⟨_, by decide, ?_, hload, hnone, ?_⟩
  · rintro home hhome
    obtain rfl := Option.some.inj hhome
    decide
  · rintro ⟨sections, hsections, -⟩
    simp [hnone] at hsections

end LedgerSearch.Cli
