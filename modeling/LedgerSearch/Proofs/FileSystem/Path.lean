import LedgerSearch.FileSystem.Path
import Mathlib.Data.List.Infix
import Mathlib.Data.List.Nodup

/-!
# `LedgerSearch.Proofs.FileSystem.Path`: the components of paths above a path and below it

Paths are kept as they are written, but compared by their components, and so it is by components
that the operations on paths are understood. The paths above a path have the proper prefixes of its
components, longest first, and behind them, for a path that starts with a written `.`, the empty
path (`components_ancestors`). No two of them are therefore the same
(`nodup_components_ancestors`), however many slashes and dots the path is written with. A name that
is looked up from a directory comes behind the components of the directory (`components_join`).

The printed form enters in one place only. A path put together from pieces has to be taken apart
again to find its components, and the start must not change: without a written start, the first
piece may look neither empty nor like a dot (`split_implicit_of_prefix`).
-/

set_option autoImplicit false

namespace LedgerSearch.FileSystem.Path

/-! ### Pieces and names -/

/-- The pieces that count when paths are compared. -/
def namesIn (cs : List Char) : List (List Char) :=
  (piecesOf cs).filter (!isIdle ·)

@[simp]
theorem namesIn_nil : namesIn [] = [] := by decide

theorem components_eq (p : Path) : p.components = (p.split.1, namesIn p.split.2) := rfl

theorem sameAs_iff {p q : Path} : p.sameAs q = true ↔ p.components = q.components := by
  simp [sameAs, Prod.ext_iff]

theorem sameAs_comm (p q : Path) : p.sameAs q = q.sameAs p := by
  rw [Bool.eq_iff_iff, sameAs_iff, sameAs_iff, eq_comm]

theorem namesIn_append_slash (cs ds : List Char) :
    namesIn (cs ++ '/' :: ds) = namesIn cs ++ namesIn ds := by
  rw [namesIn, piecesOf, List.splitOn_append_cons_self, List.filter_append]
  rfl

/-- A piece holds no slash, and nothing that its path does not hold. -/
theorem mem_of_mem_piecesOf {cs piece : List Char} (h : piece ∈ piecesOf cs) :
    ∀ c ∈ piece, c ∈ cs ∧ c ≠ '/' := by
  induction cs generalizing piece with
  | nil =>
      obtain rfl : piece = [] := by simpa [piecesOf] using h
      simp
  | cons c cs ih =>
      rw [piecesOf, List.splitOn_cons_eq_if_modifyHead] at h
      have later : ∀ q ∈ piecesOf cs, ∀ d ∈ q, d ∈ c :: cs ∧ d ≠ '/' := fun q hq d hd =>
        ⟨List.mem_cons_of_mem c (ih hq d hd).1, (ih hq d hd).2⟩
      by_cases hc : c = '/'
      · obtain rfl | hpiece : piece = [] ∨ piece ∈ piecesOf cs := by simpa [hc, piecesOf] using h
        · simp
        · exact later piece hpiece
      · -- the character is the first of the first piece behind it
        obtain ⟨first, rest, hpieces⟩ := List.exists_cons_of_ne_nil (List.splitOn_ne_nil '/' cs)
        rw [if_neg (by simpa using hc), hpieces, List.modifyHead_cons] at h
        have hmem : ∀ q ∈ first :: rest, q ∈ piecesOf cs := fun q hq => by
          rwa [piecesOf, hpieces]
        rcases List.mem_cons.mp h with rfl | hrest
        · intro d hd
          rcases List.mem_cons.mp hd with rfl | hd
          · exact ⟨List.mem_cons_self, hc⟩
          · exact later first (hmem first List.mem_cons_self) d hd
        · exact later piece (hmem piece (List.mem_cons_of_mem first hrest))

theorem piecesOf_intercalate {pieces : List (List Char)} (hne : pieces ≠ [])
    (h : ∀ piece ∈ pieces, '/' ∉ piece) : piecesOf (['/'].intercalate pieces) = pieces :=
  List.splitOn_intercalate '/' h hne

/-! ### The start of a path -/

/-- Where no start is written, all of the path stands behind it. -/
theorem toList_of_implicit {p : Path} (h : p.split.1 = .implicit) : p.text.toList = p.split.2 := by
  unfold split at h ⊢
  split <;> simp_all

/-- Where no start is written, none is written in what stands in front of a slash. -/
theorem split_implicit_of_prefix {p : Path} (h : p.split.1 = .implicit) {cs ds : List Char}
    (hp : p.text.toList = cs ++ ds) (hds : ds = [] ∨ ds.head? = some '/') :
    split ⟨String.ofList cs⟩ = (.implicit, cs) := by
  rw [split, hp] at h
  rw [split, String.toList_ofList]
  split
  · simp at h
  · obtain rfl | ⟨es, rfl⟩ : ds = [] ∨ ∃ es, ds = '/' :: es :=
      hds.imp_right List.head?_eq_some_iff.mp
    · simp at h
    · simp at h
  · simp at h
  · rfl

/-! ### Paths put together from pieces -/

/-- The first pieces of a path make up the path, or what stands in front of one of its slashes. -/
theorem intercalate_append {pieces : List (List Char)} (hne : pieces ≠ [])
    (more : List (List Char)) :
    ∃ ds, ['/'].intercalate (pieces ++ more) = ['/'].intercalate pieces ++ ds ∧
      (ds = [] ∨ ds.head? = some '/') := by
  induction pieces with
  | nil => exact absurd rfl hne
  | cons piece pieces ih =>
      cases pieces with
      | nil =>
          cases more with
          | nil => exact ⟨[], by simp⟩
          | cons next more =>
              refine ⟨'/' :: ['/'].intercalate (next :: more), ?_, .inr rfl⟩
              rw [List.singleton_append, List.intercalate_cons_cons, List.intercalate_singleton,
                List.append_assoc, List.singleton_append]
      | cons next pieces =>
          obtain ⟨ds, hds, hslash⟩ := ih (List.cons_ne_nil next pieces)
          refine ⟨ds, ?_, hslash⟩
          rw [List.cons_append, List.cons_append, List.intercalate_cons_cons, ← List.cons_append,
            hds, List.intercalate_cons_cons]
          simp only [List.append_assoc]

/-- A path put together from the first pieces of another one starts like it. -/
theorem components_ofPieces {p : Path} {pieces more : List (List Char)}
    (h : piecesOf p.split.2 = pieces ++ more) :
    (ofPieces p.split.1 pieces).components = (p.split.1, pieces.filter (!isIdle ·)) := by
  by_cases hne : pieces = []
  · subst hne
    cases p.split.1 <;> decide
  have hslash : ∀ piece ∈ pieces, '/' ∉ piece := fun piece hpiece hc =>
    (mem_of_mem_piecesOf (h ▸ List.mem_append_left more hpiece) '/' hc).2 rfl
  have hnames : namesIn (['/'].intercalate pieces) = pieces.filter (!isIdle ·) := by
    rw [namesIn, piecesOf_intercalate hne hslash]
  cases hstart : p.split.1 with
  | root => simp [ofPieces, components_eq, split, hnames]
  | here => simp [ofPieces, components_eq, split, hne, hnames]
  | implicit =>
      -- what is put together is the front of the path itself
      obtain ⟨ds, hds, hend⟩ := intercalate_append hne more
      have htext : p.text.toList = ['/'].intercalate pieces ++ ds := by
        rw [toList_of_implicit hstart, ← hds, ← h, piecesOf, List.intercalate_splitOn]
      have hsplit := split_implicit_of_prefix hstart htext hend
      rw [ofPieces, components_eq, hsplit, hnames]

/-! ### The directories above a path -/

theorem filter_dropWhile_isIdle (pieces : List (List Char)) :
    (pieces.dropWhile isIdle).filter (!isIdle ·) = pieces.filter (!isIdle ·) := by
  induction pieces with
  | nil => rfl
  | cons piece pieces ih =>
      cases hidle : isIdle piece with
      | true => simp [hidle, ih]
      | false => simp [hidle]

/-- Each piece that counts is left out in turn, with those behind it. -/
theorem map_filter_above (pieces : List (List Char)) :
    (above pieces).map (List.filter (!isIdle ·)) = (pieces.filter (!isIdle ·)).tails.tail := by
  induction pieces with
  | nil => rfl
  | cons piece before ih =>
      cases hidle : isIdle piece with
      | true => simp [above, hidle, ih]
      | false =>
          simp only [above, hidle, Bool.false_eq_true, if_false, List.map_cons, ih,
            filter_dropWhile_isIdle, Bool.not_false, List.filter_cons_of_pos, List.tails_cons,
            List.tail_cons]
          cases before.filter (!isIdle ·) with
          | nil => rfl
          | cons name names => rfl

theorem suffix_of_mem_above {pieces shorter : List (List Char)} (h : shorter ∈ above pieces) :
    shorter <:+ pieces := by
  induction pieces with
  | nil => simp [above] at h
  | cons piece before ih =>
      have hbefore : before <:+ piece :: before := List.suffix_cons piece before
      rw [above] at h
      split at h
      · exact (ih h).trans hbefore
      · rcases List.mem_cons.mp h with rfl | hin
        · exact (List.dropWhile_suffix isIdle).trans hbefore
        · exact (ih hin).trans hbefore

/-- The paths above a path have the proper prefixes of its components, longest first. -/
theorem map_components_above (p : Path) :
    ((above (piecesOf p.split.2).reverse).map fun pieces =>
        (ofPieces p.split.1 pieces.reverse).components)
      = ((namesIn p.split.2).reverse.tails.tail).map fun names => (p.split.1, names.reverse) := by
  have hcomponents : ∀ pieces ∈ above (piecesOf p.split.2).reverse,
      (ofPieces p.split.1 pieces.reverse).components
        = (p.split.1, (pieces.filter (!isIdle ·)).reverse) := by
    intro pieces hpieces
    obtain ⟨behind, hbehind⟩ := suffix_of_mem_above hpieces
    have hfront : piecesOf p.split.2 = pieces.reverse ++ behind.reverse := by
      rw [← List.reverse_append, hbehind, List.reverse_reverse]
    rw [components_ofPieces hfront, List.filter_reverse]
  rw [List.map_congr_left hcomponents, namesIn, ← List.filter_reverse, ← map_filter_above,
    List.map_map]
  rfl

/-- The path and those above it have the prefixes of its components, longest first. Behind them
comes the empty path when the start is a written dot. -/
theorem components_ancestors (p : Path) :
    p.ancestors.map components
      = ((namesIn p.split.2).reverse.tails.map fun names => (p.split.1, names.reverse))
        ++ if p.split.1 = .here then [(.implicit, [])] else [] := by
  have hself : (namesIn p.split.2).reverse.tails
      = (namesIn p.split.2).reverse :: (namesIn p.split.2).reverse.tails.tail := by
    cases (namesIn p.split.2).reverse with
    | nil => rfl
    | cons name names => rfl
  have hempty : components ⟨""⟩ = (.implicit, []) := by decide
  rw [hself, List.map_cons, List.reverse_reverse, ← components_eq, ← map_components_above,
    ancestors, List.map_cons, parents]
  by_cases hstart : p.split.1 = .here
  · simp [hstart, hempty, Function.comp_def]
  · simp [hstart, Function.comp_def]

theorem nodup_tails {α : Type} (l : List α) : l.tails.Nodup := by
  induction l with
  | nil => simp
  | cons a l ih =>
      rw [List.tails_cons, List.nodup_cons, List.mem_tails]
      refine ⟨fun h => ?_, ih⟩
      have := h.length_le
      simp only [List.length_cons] at this
      omega

/-- No two of the paths from a path upwards are the same. -/
theorem nodup_components_ancestors (p : Path) : (p.ancestors.map components).Nodup := by
  have hnames : ((namesIn p.split.2).reverse.tails.map
      fun names => (p.split.1, names.reverse)).Nodup := by
    refine (nodup_tails _).map fun names names' h => ?_
    exact List.reverse_injective (Prod.mk.inj h).2
  rw [components_ancestors]
  by_cases hstart : p.split.1 = .here
  · rw [if_pos hstart]
    refine hnames.append (List.nodup_singleton _) ?_
    simp [hstart]
  · rw [if_neg hstart, List.append_nil]
    exact hnames

/-- The directory of a path has all of its components but the last. -/
theorem components_directory {p : Path} {names : List (List Char)} {name : List Char}
    (h : p.components.2 = names ++ [name]) : p.directory.components = (p.components.1, names) := by
  have habove := map_components_above p
  rw [show namesIn p.split.2 = names ++ [name] from h, List.reverse_concat, List.tails_cons,
    List.tail_cons] at habove
  have htails : ∃ more, names.reverse.tails = names.reverse :: more := by
    cases names.reverse with
    | nil => exact ⟨[], rfl⟩
    | cons other others => exact ⟨_, rfl⟩
  obtain ⟨more, hmore⟩ := htails
  cases hnearest : above (piecesOf p.split.2).reverse with
  | nil => simp [hnearest, hmore] at habove
  | cons pieces others =>
      rw [hnearest, hmore, List.map_cons, List.map_cons, List.reverse_reverse,
        List.cons.injEq] at habove
      have hdirectory : p.directory = ofPieces p.split.1 pieces.reverse := by
        simp only [directory, parents, hnearest, List.map_cons]
        split_ifs <;> rfl
      rw [hdirectory, habove.1, components_eq]

/-- A path put together from pieces is written with slashes, a dot and what is in the pieces. -/
theorem mem_ofPieces {start : Start} {pieces : List (List Char)} {c : Char}
    (h : c ∈ (ofPieces start pieces).text.toList) :
    c = '/' ∨ c = '.' ∨ ∃ piece ∈ pieces, c ∈ piece := by
  have hbody : ∀ c ∈ ['/'].intercalate pieces, c = '/' ∨ ∃ piece ∈ pieces, c ∈ piece := by
    clear h
    induction pieces with
    | nil => simp
    | cons piece pieces ih =>
        intro d hd
        have hd : d ∈ piece ∨ d = '/' ∨ d ∈ ['/'].intercalate pieces := by
          cases pieces with
          | nil => exact .inl (by simpa using hd)
          | cons next pieces => simpa [List.intercalate_cons_cons] using hd
        rcases hd with hd | hd | hd
        · exact .inr ⟨piece, List.mem_cons_self, hd⟩
        · exact .inl hd
        · refine (ih d hd).imp_right ?_
          rintro ⟨other, hother, hd⟩
          exact ⟨other, List.mem_cons_of_mem piece hother, hd⟩
  cases start with
  | root => grind [ofPieces, String.toList_ofList]
  | here => grind [ofPieces, String.toList_ofList]
  | implicit => grind [ofPieces, String.toList_ofList]

theorem split_suffix (p : Path) : p.split.2 <:+ p.text.toList := by
  rw [split]
  split
  case h_1 cs heq => exact heq ▸ List.suffix_cons '/' cs
  case h_2 heq => exact List.nil_suffix
  case h_3 cs heq => exact heq ▸ (List.suffix_cons '/' cs).trans (List.suffix_cons '.' _)
  case h_4 => exact List.suffix_refl _

/-- A directory is written with slashes, a dot and what its path is written with. -/
theorem mem_directory {p : Path} {c : Char} (h : c ∈ p.directory.text.toList) :
    c = '/' ∨ c = '.' ∨ c ∈ p.text.toList := by
  have hparents : ∀ q ∈ p.parents, c ∈ q.text.toList → c = '/' ∨ c = '.' ∨ c ∈ p.text.toList := by
    intro q hq hc
    have hnamed : q = ⟨""⟩ ∨ ∃ pieces ∈ above (piecesOf p.split.2).reverse,
        ofPieces p.split.1 pieces.reverse = q := by
      simp only [parents] at hq
      split_ifs at hq
      · simpa [or_comm] using hq
      · exact .inr (List.mem_map.mp hq)
    obtain rfl | ⟨pieces, hpieces, rfl⟩ := hnamed
    · simp at hc
    · rcases mem_ofPieces hc with rfl | rfl | ⟨piece, hpiece, hcpiece⟩
      · exact .inl rfl
      · exact .inr (.inl rfl)
      · have hin : piece ∈ piecesOf p.split.2 := by
          simpa using (suffix_of_mem_above hpieces).subset (List.mem_reverse.mp hpiece)
        exact .inr (.inr ((split_suffix p).subset (mem_of_mem_piecesOf hin c hcpiece).1))
  rw [directory] at h
  cases hhead : p.parents.head? with
  | none => simp [hhead] at h
  | some q => exact hparents q (List.mem_of_mem_head? hhead) (by simpa [hhead] using h)

/-! ### Absolute paths -/

/-- The path starts at the root. -/
def IsAbsolute (p : Path) : Prop :=
  p.split.1 = .root

instance (p : Path) : Decidable p.IsAbsolute :=
  inferInstanceAs (Decidable (p.split.1 = .root))

theorem isAbsolute_iff_components {p : Path} : p.IsAbsolute ↔ p.components.1 = .root := Iff.rfl

theorem isAbsolute_iff {p : Path} : p.IsAbsolute ↔ p.text.toList.head? = some '/' := by
  rw [IsAbsolute, split, List.head?_eq_some_iff]
  split <;> simp_all

theorem IsAbsolute.join_eq {p : Path} (h : p.IsAbsolute) (base : Path) : base.join p = p := by
  rw [join, h]

/-- Looked up from an absolute path, every path is absolute. -/
theorem IsAbsolute.join {base : Path} (h : base.IsAbsolute) (p : Path) :
    (base.join p).IsAbsolute := by
  by_cases hp : p.IsAbsolute
  · rwa [hp.join_eq]
  obtain ⟨cs, hbase⟩ := List.head?_eq_some_iff.mp (isAbsolute_iff.mp h)
  rw [isAbsolute_iff, Path.join]
  split
  · rename_i hroot
    exact absurd hroot hp
  · split_ifs <;> simp [hbase]

/-- Above an absolute path all paths are absolute. -/
theorem IsAbsolute.of_mem_ancestors {p q : Path} (h : p.IsAbsolute) (hq : q ∈ p.ancestors) :
    q.IsAbsolute := by
  have hmem : q.components ∈ p.ancestors.map components := List.mem_map_of_mem hq
  rw [components_ancestors, show p.split.1 = .root from h] at hmem
  simp only [reduceCtorEq, if_false, List.append_nil, List.mem_map] at hmem
  obtain ⟨names, -, hnames⟩ := hmem
  show q.components.1 = .root
  rw [← hnames]

/-! ### Looking up from a directory -/

/-- What stands behind a slash adds its names. -/
theorem components_append_slash {cs : List Char} (h : cs ≠ []) (ds : List Char) :
    components ⟨String.ofList (cs ++ '/' :: ds)⟩
      = ((components ⟨String.ofList cs⟩).1, (components ⟨String.ofList cs⟩).2 ++ namesIn ds) := by
  rw [components_eq ⟨String.ofList cs⟩, split, String.toList_ofList]
  split
  · simp [components_eq, split, namesIn_append_slash]
  · simp [components_eq, split]
  · simp [components_eq, split, namesIn_append_slash]
  · rename_i hroot hdot hhere
    have hsplit : split ⟨String.ofList (cs ++ '/' :: ds)⟩ = (.implicit, cs ++ '/' :: ds) := by
      obtain ⟨c, cs, rfl⟩ := List.exists_cons_of_ne_nil h
      rw [split, String.toList_ofList]
      split
      · simp_all
      · simp_all
      · rename_i es heq
        rw [List.cons_append, List.cons.injEq] at heq
        cases cs with
        | nil => simp_all
        | cons d cs => simp_all
      · rfl
    rw [components_eq, hsplit, namesIn_append_slash]

/-- The components of a path without a start, looked up from a directory, come behind those of the
directory. -/
theorem components_join (base : Path) {p : Path} (h : p.split.1 = .implicit) :
    (base.join p).components
      = (base.components.1, base.components.2 ++ p.components.2) := by
  have hp : p.components = (.implicit, namesIn p.text.toList) := by
    rw [components_eq, h, toList_of_implicit h]
  have hnone : components ⟨""⟩ = (.implicit, []) := by decide
  simp only [join, h]
  by_cases hempty : base.text = ""
  · have hbase : base.components = (.implicit, []) := by rw [← hnone, ← hempty]
    simp [hempty, hbase, hp]
  have hne : base.text.toList ≠ [] := by simpa using hempty
  by_cases hslash : base.text.toList.getLast? = some '/'
  · obtain ⟨front, hfront⟩ := List.getLast?_eq_some_iff.mp hslash
    have hbase : base = ⟨String.ofList (front ++ ['/'])⟩ := by
      rw [← hfront, String.ofList_toList]
    have hjoin : base.text ++ p.text = String.ofList (front ++ '/' :: p.text.toList) := by
      simp [← String.toList_inj, hfront]
    simp only [hslash, decide_true, Bool.or_true, if_true]
    rw [hjoin]
    by_cases hroot : front = []
    · subst hroot
      simp [hbase, hp, components_eq, split]
    · rw [components_append_slash hroot, hbase, components_append_slash hroot, hp]
      simp
  · have hjoin : base.text ++ "/" ++ p.text
        = String.ofList (base.text.toList ++ '/' :: p.text.toList) := by
      simp [← String.toList_inj]
    simp only [hslash, String.isEmpty_iff, hempty, decide_false, Bool.or_false]
    rw [if_neg (by simp), hjoin, components_append_slash hne, String.ofList_toList]
    simp [hp]

end LedgerSearch.FileSystem.Path
