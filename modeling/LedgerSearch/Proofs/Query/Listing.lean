import LedgerSearch.Proofs.Query.Canonical
import LedgerSearch.Proofs.Text.Escape
import Mathlib.Data.List.Forall2

/-!
# `LedgerSearch.Proofs.Query.Listing`: a listing shows one tree only

`Expr.listing` is what a user inspects to see how a query was understood, so it must not show two
trees in one way. `listing_unambiguous` says that it does not, whatever the terms hold: there is one
line for each node, no line holds a line break of its own, and trees with the same listing are the
same.

A listing is told apart from others in three steps. Its lines are found in it, as they hold no line
break (`lines_eq_of_join_eq`). A line says what its node is, since a label begins with a letter of
its own and a term is quoted (`Expr.sameNode_of_label_eq`). And the lines of a tree say where they
end, whatever follows them (`Expr.listingLines_append_inj`), so the lines of two operands fall apart
in one way only.
-/

set_option autoImplicit false

namespace LedgerSearch.Query

open LedgerSearch.Text

/-! ### Lines and the text they make up -/

theorem toList_join_cons (line : String) (lines : List String) :
    (String.join ((line :: lines).map (· ++ "\n"))).toList
      = line.toList ++ '\n' :: (String.join (lines.map (· ++ "\n"))).toList := by
  simp [String.toList_join]

/-- The first line is what stands before the first line break. -/
theorem cut_join_cons {line : String} (hline : '\n' ∉ line.toList) (lines : List String) :
    (String.join ((line :: lines).map (· ++ "\n"))).toList.takeWhile (· != '\n') = line.toList ∧
    (String.join ((line :: lines).map (· ++ "\n"))).toList.dropWhile (· != '\n')
      = '\n' :: (String.join (lines.map (· ++ "\n"))).toList := by
  rw [toList_join_cons]
  refine takeWhile_dropWhile_eq _ ?_ (by rintro c ⟨⟩; rfl)
  intro c hc
  exact bne_iff_ne.mpr fun hbreak => hline (hbreak ▸ hc)

/-- Lines without a line break are found again in the text they make up. -/
theorem lines_eq_of_join_eq {ls ls' : List String} (hls : ∀ line ∈ ls, '\n' ∉ line.toList)
    (hls' : ∀ line ∈ ls', '\n' ∉ line.toList)
    (h : String.join (ls.map (· ++ "\n")) = String.join (ls'.map (· ++ "\n"))) : ls = ls' := by
  induction ls generalizing ls' with
  | nil =>
      cases ls' with
      | nil => rfl
      | cons line' lines' =>
          have hchars := congrArg String.toList h
          rw [toList_join_cons] at hchars
          exact absurd hchars.symm (List.append_ne_nil_of_right_ne_nil _ (List.cons_ne_nil _ _))
  | cons line lines ih =>
      rw [List.forall_mem_cons] at hls
      cases ls' with
      | nil =>
          have hchars := congrArg String.toList h
          rw [toList_join_cons] at hchars
          exact absurd hchars (List.append_ne_nil_of_right_ne_nil _ (List.cons_ne_nil _ _))
      | cons line' lines' =>
          rw [List.forall_mem_cons] at hls'
          obtain ⟨htake, hdrop⟩ := cut_join_cons hls.1 lines
          obtain ⟨htake', hdrop'⟩ := cut_join_cons hls'.1 lines'
          rw [h] at htake hdrop
          have hline : line = line' := String.toList_inj.mp (htake.symm.trans htake')
          have hlines : lines = lines' :=
            ih hls.2 hls'.2 (String.toList_inj.mp (List.cons.inj (hdrop.symm.trans hdrop')).2)
          rw [hline, hlines]

namespace Expr

/-! ### What a line says about its node -/

/-- What the listing says about the node at the root. -/
def label : Expr → String
  | matchAll => "MatchAll"
  | term text => "Term(" ++ quoted text ++ ")"
  | and _ _ => "And"
  | or _ _ => "Or"
  | not _ => "Not"

/-- The letter that the label begins with. -/
def initial : Expr → Char
  | matchAll => 'M'
  | term _ => 'T'
  | and _ _ => 'A'
  | or _ _ => 'O'
  | not _ => 'N'

/-- The trees are the same but for the operands at their roots. -/
def SameNode : Expr → Expr → Prop
  | matchAll, matchAll | and _ _, and _ _ | or _ _, or _ _ | not _, not _ => True
  | term text, term text' => text = text'
  | _, _ => False

/-- The line names the node, behind as many blank columns as the depth of the node asks for. -/
def IsLineOf (line : String) (node : Expr) : Prop :=
  ∃ depth, line = listingLines.margin depth ++ node.label

theorem head?_label (e : Expr) : e.label.toList.head? = some e.initial := by
  cases e <;> simp [label, initial]

/-- A label is that of one node only. -/
theorem sameNode_of_label_eq {e e' : Expr} (h : e.label = e'.label) : e.SameNode e' := by
  have hinitial : e.initial = e'.initial := by
    rw [← Option.some.injEq, ← head?_label, ← head?_label, h]
  -- the letter tells the five kinds of nodes apart; two terms are told apart by what they quote
  cases e <;> cases e'
  case term.term text text' =>
    have hquoted := congrArg String.toList h
    simp only [label, String.toList_append, List.append_cancel_left_eq,
      List.append_cancel_right_eq] at hquoted
    exact quoted_inj.mp (String.toList_inj.mp hquoted)
  all_goals first | trivial | simp [initial] at hinitial

theorem isShown_of_mem_label {e : Expr} {c : Char} (hc : c ∈ e.label.toList) :
    isShown c = true := by
  have hplain : ∀ s ∈ ["MatchAll", "And", "Or", "Not", "Term(", ")"],
      s.toList.all isShown = true := by
    decide
  cases e with
  | term text =>
      rw [label, String.toList_append, String.toList_append, List.mem_append, List.mem_append] at hc
      rcases hc with (hc | hc) | hc
      · exact List.all_eq_true.mp (hplain _ (by decide)) c hc
      · exact isShown_of_mem_quoted hc
      · exact List.all_eq_true.mp (hplain _ (by decide)) c hc
  | _ => exact List.all_eq_true.mp (hplain _ (by simp [label])) c hc

theorem isShown_of_isLineOf {line : String} {node : Expr} (h : IsLineOf line node) {c : Char}
    (hc : c ∈ line.toList) : isShown c = true := by
  obtain ⟨depth, rfl⟩ := h
  rw [String.toList_append, List.mem_append] at hc
  rcases hc with hc | hc
  · rw [listingLines.margin, String.toList_ofList] at hc
    rw [List.eq_of_mem_replicate hc]
    decide
  · exact isShown_of_mem_label hc

/-! ### The lines of a tree -/

/-- The operands at the root. -/
def operands : Expr → List Expr
  | matchAll | term _ => []
  | and left right | or left right => [left, right]
  | not inner => [inner]

theorem listingLines_eq (indent : Nat) (e : Expr) :
    e.listingLines indent
      = (listingLines.margin indent ++ e.label)
        :: e.operands.flatMap (listingLines (indent + 1)) := by
  cases e <;> simp [listingLines, label, operands, String.append_assoc]

theorem forall₂_isLineOf_nodes (e : Expr) (indent : Nat) :
    List.Forall₂ IsLineOf (e.listingLines indent) e.nodes := by
  induction e generalizing indent with
  | matchAll => exact .cons ⟨indent, rfl⟩ .nil
  | term text => exact .cons ⟨indent, by simp [label, String.append_assoc]⟩ .nil
  | and left right ihl ihr =>
      exact .cons ⟨indent, rfl⟩ (List.rel_append (ihl (indent + 1)) (ihr (indent + 1)))
  | or left right ihl ihr =>
      exact .cons ⟨indent, rfl⟩ (List.rel_append (ihl (indent + 1)) (ihr (indent + 1)))
  | not inner ih => exact .cons ⟨indent, rfl⟩ (ih (indent + 1))

theorem exists_isLineOf {e : Expr} {indent : Nat} {line : String}
    (h : line ∈ e.listingLines indent) : ∃ node, IsLineOf line node := by
  obtain ⟨i, hi, rfl⟩ := List.mem_iff_getElem.mp h
  have hlines := forall₂_isLineOf_nodes e indent
  exact ⟨_, hlines.get hi (hlines.length_eq ▸ hi)⟩

/-- The first line tells the roots, and what is left are the lines of their operands. -/
theorem sameNode_of_listingLines_append_eq {e e' : Expr} {indent : Nat} {ls ls' : List String}
    (h : e.listingLines indent ++ ls = e'.listingLines indent ++ ls') :
    e.SameNode e' ∧
    e.operands.flatMap (listingLines (indent + 1)) ++ ls
      = e'.operands.flatMap (listingLines (indent + 1)) ++ ls' := by
  rw [listingLines_eq, listingLines_eq, List.cons_append, List.cons_append] at h
  obtain ⟨hfirst, hrest⟩ := List.cons.inj h
  refine ⟨sameNode_of_label_eq (String.toList_inj.mp ?_), hrest⟩
  have hchars := congrArg String.toList hfirst
  rwa [String.toList_append, String.toList_append, List.append_cancel_left_eq] at hchars

theorem eq_of_sameNode {e e' : Expr} (h : e.SameNode e') (hoperands : e.operands = e'.operands) :
    e = e' := by
  cases e <;> cases e' <;> simp_all [SameNode, operands]

theorem length_operands_eq {e e' : Expr} (h : e.SameNode e') :
    e.operands.length = e'.operands.length := by
  cases e <;> cases e' <;> first | rfl | exact h.elim

theorem sizeOf_lt_of_mem_operands {e operand : Expr} (h : operand ∈ e.operands) :
    sizeOf operand < sizeOf e := by
  cases e <;> simp only [operands, List.mem_cons, List.not_mem_nil, or_false] at h
  case and | or => rcases h with rfl | rfl <;> simp +arith
  case not => simp [h]

/-- Trees that end where their lines say can be put in a row. -/
theorem flatMap_listingLines_inj {es es' : List Expr} {indent : Nat} {ls ls' : List String}
    (hends : ∀ e ∈ es, ∀ {e' : Expr} {ls ls' : List String},
      e.listingLines indent ++ ls = e'.listingLines indent ++ ls' → e = e' ∧ ls = ls')
    (hlength : es.length = es'.length)
    (h : es.flatMap (listingLines indent) ++ ls = es'.flatMap (listingLines indent) ++ ls') :
    es = es' ∧ ls = ls' := by
  induction es generalizing es' with
  | nil =>
      obtain rfl := List.length_eq_zero_iff.mp hlength.symm
      exact ⟨rfl, h⟩
  | cons e es ih =>
      cases es' with
      | nil => cases hlength
      | cons e' es' =>
          rw [List.flatMap_cons, List.flatMap_cons, List.append_assoc, List.append_assoc] at h
          rw [List.forall_mem_cons] at hends
          obtain ⟨rfl, htail⟩ := hends.1 h
          obtain ⟨rfl, rfl⟩ := ih hends.2 (Nat.succ.inj hlength) htail
          exact ⟨rfl, rfl⟩

/-- The lines of a tree say where they end: whatever follows them, they cannot be taken for the
lines of another tree. -/
theorem listingLines_append_inj {e e' : Expr} {indent : Nat} {ls ls' : List String}
    (h : e.listingLines indent ++ ls = e'.listingLines indent ++ ls') : e = e' ∧ ls = ls' := by
  obtain ⟨hsame, hrest⟩ := sameNode_of_listingLines_append_eq h
  have hends : ∀ operand ∈ e.operands, ∀ {e' : Expr} {ls ls' : List String},
      operand.listingLines (indent + 1) ++ ls = e'.listingLines (indent + 1) ++ ls' →
        operand = e' ∧ ls = ls' := by
    intro operand hmem e' ls ls' h'
    have hlt := sizeOf_lt_of_mem_operands hmem
    exact listingLines_append_inj h'
  obtain ⟨hoperands, hls⟩ := flatMap_listingLines_inj hends (length_operands_eq hsame) hrest
  exact ⟨eq_of_sameNode hsame hoperands, hls⟩
termination_by sizeOf e

/-- **A listing shows one tree only.** It has one line for each node, with a line break behind it
and no other one in it, whatever characters the terms hold. Trees that are not the same have
listings that are not the same. -/
theorem listing_unambiguous (e : Expr) :
    (∃ lines : List String,
        e.listing = String.join (lines.map (· ++ "\n")) ∧
        List.Forall₂ IsLineOf lines e.nodes ∧
        ∀ line ∈ lines, '\n' ∉ line.toList ∧ '\r' ∉ line.toList) ∧
    ∀ e' : Expr, e.listing = e'.listing ↔ e = e' := by
  have hbreaks : ∀ (e : Expr), ∀ line ∈ e.listingLines 0,
      '\n' ∉ line.toList ∧ '\r' ∉ line.toList := by
    intro e line hline
    obtain ⟨node, hnode⟩ := exists_isLineOf hline
    exact ⟨fun h => absurd (isShown_of_isLineOf hnode h) (by decide),
      fun h => absurd (isShown_of_isLineOf hnode h) (by decide)⟩
  refine ⟨⟨e.listingLines 0, rfl, forall₂_isLineOf_nodes e 0, hbreaks e⟩, ?_⟩
  intro e'
  refine ⟨fun h => ?_, congrArg listing⟩
  -- first the lines are found in the texts, then the trees in the lines
  have hlines : e.listingLines 0 = e'.listingLines 0 :=
    lines_eq_of_join_eq (fun line hline => (hbreaks e line hline).1)
      (fun line hline => (hbreaks e' line hline).1) h
  have happend : e.listingLines 0 ++ [] = e'.listingLines 0 ++ [] := by
    rw [hlines]
  exact (listingLines_append_inj happend).1

/-- A term cannot pass itself off as the lines of another tree. -/
example : (not (term "a\")\n  Term(\"b")).listing
    = "Not\n  Term(\"a\\\")\\n  Term(\\\"b\")\n" := by
  rfl

end Expr

end LedgerSearch.Query
