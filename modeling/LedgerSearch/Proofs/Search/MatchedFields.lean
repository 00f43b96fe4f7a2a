import LedgerSearch.Proofs.Search.Satisfaction

/-!
# `LedgerSearch.Proofs.Search.MatchedFields`: what the reported fields say of a match

Beside every transaction that it finds, a search can name the fields that speak for the match. To
evaluate an expression goes along its tree, while the fields come from a flat list of its terms,
those under an even number of negations. Two things are asked of the list here.

It has to be read as evaluation reads the tree, case ignored: `foldCase_keeps_meaning` states that an
expression folded beforehand finds the same and names the same fields.

And it has to miss nothing that a match needs. `satisfies_empty_of_matchedFields_eq_nil` states that
a match without a field holds of the document without a text as well, so that there was nothing to
explain. What carries it is that evaluation is monotone: a document that gains terms under an even
number of negations and loses some under an odd number still satisfies the expression
(`Document.satisfies_mono`). The two kinds of terms change places below a `NOT`, and so do the two
documents.
-/

set_option autoImplicit false

namespace LedgerSearch.Search

open LedgerSearch.Query (Expr)
open LedgerSearch.Text (lower)

/-! ### Expressions folded beforehand -/

/-- Folding changes the texts of the terms and no sign. -/
theorem termsUnder_foldCase (negated : Bool) (e : Expr) :
    e.foldCase.termsUnder negated = (e.termsUnder negated).map lower := by
  induction e generalizing negated with
  | matchAll => rfl
  | term text => cases negated <;> rfl
  | and left right ihl ihr | or left right ihl ihr =>
      rw [Expr.foldCase, Expr.termsUnder, Expr.termsUnder, ihl, ihr, List.map_append]
  | not inner ih => exact ih (!negated)

theorem Document.fieldContains_lower (d : Document) (field : Field) (term : String) :
    d.fieldContains field (lower term) = d.fieldContains field term := by
  rw [Document.fieldContains, Document.fieldContains, Text.fold_eq_lower, Text.fold_eq_lower,
    Text.lower_lower]

theorem matchedFields_foldCase (e : Expr) (d : Document) :
    matchedFields e.foldCase d = matchedFields e d := by
  have hterms : (fun field => e.foldCase.terms.any (d.fieldContains field))
      = fun field => e.terms.any (d.fieldContains field) := by
    funext field
    have hlower : d.fieldContains field ∘ lower = d.fieldContains field := by
      funext term
      rw [Function.comp_apply, d.fieldContains_lower]
    rw [Expr.terms, Expr.terms, termsUnder_foldCase, List.any_map, hlower]
  rw [matchedFields, matchedFields, hterms]

/-- **Folding an expression beforehand changes nothing.** The shortcut of `fold` gives the
lower-case form of every text, and that form is final. So the folded expression holds of the same
documents, and the same fields speak for it. -/
theorem foldCase_keeps_meaning :
    (∀ s, Text.fold s = lower s ∧ Text.fold (Text.fold s) = Text.fold s) ∧
    ∀ (e : Expr) (d : Document),
      d.satisfies e = d.satisfies e.foldCase ∧ matchedFields e d = matchedFields e.foldCase d := by
  refine ⟨fun s => ⟨Text.fold_eq_lower s, ?_⟩, fun e d => ⟨?_, ?_⟩⟩
  · rw [Text.fold_eq_lower, Text.fold_eq_lower, Text.lower_lower]
  · exact (satisfies_foldCase d e).symm
  · exact (matchedFields_foldCase e d).symm

/-! ### A match without a field -/

/-- **Evaluation is monotone in the terms.** Only those under an odd number of negations count
against a match. -/
theorem Document.satisfies_mono {e : Expr} {d d' : Document}
    (hgain : ∀ term ∈ e.termsUnder false, d.contains (lower term) = true →
      d'.contains (lower term) = true)
    (hlose : ∀ term ∈ e.termsUnder true, d'.contains (lower term) = true →
      d.contains (lower term) = true)
    (h : d.satisfies e = true) : d'.satisfies e = true := by
  induction e generalizing d d' with
  | matchAll => rfl
  | term text =>
      rw [satisfies, Text.fold_eq_lower] at h ⊢
      exact hgain text (List.mem_singleton_self text) h
  | and left right ihl ihr =>
      simp only [Expr.termsUnder, List.forall_mem_append] at hgain hlose
      rw [satisfies, Bool.and_eq_true] at h ⊢
      exact ⟨ihl hgain.1 hlose.1 h.1, ihr hgain.2 hlose.2 h.2⟩
  | or left right ihl ihr =>
      simp only [Expr.termsUnder, List.forall_mem_append] at hgain hlose
      rw [satisfies, Bool.or_eq_true] at h ⊢
      exact h.imp (ihl hgain.1 hlose.1) (ihr hgain.2 hlose.2)
  | not inner ih =>
      -- were the operand true of `d'`, it would be true of `d`: the documents change places
      rw [satisfies, Bool.not_eq_true', ← Bool.not_eq_true] at h ⊢
      exact fun hinner => h (ih hlose hgain hinner)

theorem Document.contains_lower_iff {d : Document} {term : String} :
    d.contains (lower term) = true ↔
      term = "" ∨ ∃ f ∈ d.fragments, f.contains (lower term) = true := by
  rw [contains, Bool.or_eq_true, String.isEmpty_iff, Text.lower_eq_empty_iff, List.any_eq_true]

theorem Document.fieldContains_iff {d : Document} {field : Field} {term : String} :
    d.fieldContains field term = true ↔
      term ≠ "" ∧ ∃ f ∈ d.fragments, f.field = field ∧ f.contains (lower term) = true := by
  rw [fieldContains, Text.fold_eq_lower]
  simp only [Bool.and_eq_true, Bool.not_eq_true', ← Bool.not_eq_true, String.isEmpty_iff,
    Text.lower_eq_empty_iff, List.any_eq_true, decide_eq_true_eq]

/-- Every field is in the list of all fields. -/
theorem Field.mem_all (field : Field) : field ∈ Field.all := by
  cases field <;> decide

/-- A field speaks for a match where it holds a term under an even number of negations. -/
theorem mem_matchedFields_iff {e : Expr} {d : Document} {field : Field} :
    field ∈ matchedFields e d ↔ ∃ term ∈ e.terms, d.fieldContains field term = true := by
  rw [matchedFields, List.mem_filter, List.any_eq_true]
  exact and_iff_right field.mem_all

/-- No field speaks for a match where the document contains none of the terms, the empty ones
apart. -/
theorem eq_empty_of_matchedFields_eq_nil {e : Expr} {d : Document} (h : matchedFields e d = [])
    {term : String} (hterm : term ∈ e.terms) (hcontains : d.contains (lower term) = true) :
    term = "" := by
  rcases Document.contains_lower_iff.mp hcontains with hempty | ⟨f, hf, hcontains⟩
  · exact hempty
  · by_contra hne
    have hfield := mem_matchedFields_iff.mpr
      ⟨term, hterm, Document.fieldContains_iff.mpr ⟨hne, f, hf, rfl, hcontains⟩⟩
    rw [h] at hfield
    exact List.not_mem_nil hfield

/-- Where no field speaks for a match, it needs none of the texts: any of them may be left out. -/
theorem satisfies_of_matchedFields_eq_nil {e : Expr} {d d' : Document}
    (hsub : d'.fragments ⊆ d.fragments) (hd : d.satisfies e = true)
    (hfields : matchedFields e d = []) : d'.satisfies e = true := by
  refine Document.satisfies_mono ?_ ?_ hd
  · intro term hterm hcontains
    -- an empty term, which every document contains
    exact Document.contains_lower_iff.mpr
      (.inl (eq_empty_of_matchedFields_eq_nil hfields hterm hcontains))
  · intro term _ hcontains
    rw [Document.contains_lower_iff] at hcontains ⊢
    exact hcontains.imp_right fun ⟨f, hf, hf'⟩ => ⟨f, hsub hf, hf'⟩

/-- **A match that no field speaks for needs no text.** An expression that a document satisfies
without a field that speaks for it is satisfied by the document without fragments. -/
theorem satisfies_empty_of_matchedFields_eq_nil {e : Expr} {d : Document}
    (hd : d.satisfies e = true) (hfields : matchedFields e d = []) :
    Document.satisfies {} e = true :=
  satisfies_of_matchedFields_eq_nil (List.nil_subset _) hd hfields

/-- The expression `NOT (Costa AND NOT "") AND (latte OR NOT NOT "")`. The terms `latte` and `""`
speak for a match, and the document contains only the empty one. -/
theorem satisfies_empty_of_costa_absent :
    let e := Expr.and (.not (.and (.term "Costa") (.not (.term ""))))
      (.or (.term "latte") (.not (.not (.term ""))))
    let d := Document.mk [⟨.payee, "Corner shop"⟩, ⟨.tag, "Treat"⟩]
    d.satisfies e = true ∧ matchedFields e d = [] ∧ Document.satisfies {} e = true := by
  intro e d
  have hd : d.satisfies e = true := by decide
  have hfields : matchedFields e d = [] := by decide
  exact ⟨hd, hfields, satisfies_empty_of_matchedFields_eq_nil hd hfields⟩

end LedgerSearch.Search
