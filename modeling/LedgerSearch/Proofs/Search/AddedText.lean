import LedgerSearch.Proofs.Search.MatchedFields
import LedgerSearch.Proofs.Search.Substring

/-!
# `LedgerSearch.Proofs.Search.AddedText`: in which direction text matters

The terms of an expression fall into two lists, those under an even number of negations
(`Expr.terms`) and those under an odd number, which are the terms of the negated expression. The
lists say in which direction a text matters to a match. A document that gains terms of the first and
loses terms of the second keeps the match. Without a term of the second list a document keeps every
match as long as it keeps its texts, whatever is added to them.

To keep a text means that it still stands in some text, case ignored. It does when a text is added
beside those that are there. It need not when a text grows: the last sigma of `ΜΟΥΣ` has another
form once letters follow (`grown_payee_lost`). `satisfies_monotone_in_texts` states the rule for the
lists and the exact condition on the texts, and it says which texts may grow: those that settle the
form of their sigmas (`LedgerSearch.Proofs.Text.FinalSigma`).
-/

set_option autoImplicit false

namespace LedgerSearch.Search

open LedgerSearch.Ledger
open LedgerSearch.Query (Expr)
open LedgerSearch.Text

/-! ### Documents -/

section
variable {e : Expr} {d d' : Document}

/-- A document that contains the texts of another contains whatever stands in them. -/
theorem Document.contains_of_texts_kept (h : ∀ f ∈ d.fragments, d'.contains f.folded = true)
    {needle : String} (hneedle : d.contains needle = true) : d'.contains needle = true := by
  simp only [contains, Bool.or_eq_true, String.isEmpty_iff, List.any_eq_true] at h hneedle ⊢
  rcases hneedle with hempty | ⟨f, hf, hcontains⟩
  · exact .inl hempty
  · have hpart : needle.toList <:+: f.folded.toList := contains_iff.mp hcontains
    rcases h f hf with hempty | ⟨f', hf', hcontains'⟩
    · -- of the empty text only the empty needle is a part
      rw [hempty, String.toList_empty, List.infix_nil, String.toList_eq_nil_iff] at hpart
      exact .inl hpart
    · exact .inr ⟨f', hf', contains_iff.mpr (hpart.trans (contains_iff.mp hcontains'))⟩

/-- An expression without a term under an odd number of negations holds of every document that
contains the texts of one of which it holds. -/
theorem Document.satisfies_of_texts_kept (hterms : (Expr.not e).terms = [])
    (h : ∀ f ∈ d.fragments, d'.contains f.folded = true) (hd : d.satisfies e = true) :
    d'.satisfies e = true := by
  refine satisfies_mono (fun term _ hterm => contains_of_texts_kept h hterm) ?_ hd
  intro term hterm
  have hmem : term ∈ (Expr.not e).terms := hterm
  rw [hterms] at hmem
  exact absurd hmem List.not_mem_nil

/-- A text is the term that tells whether it was kept. -/
theorem Document.satisfies_term_text {f : Fragment} (hf : f ∈ d.fragments) :
    d.satisfies (.term f.text) = true := by
  rw [satisfies, fold_eq_lower, contains, Bool.or_eq_true, List.any_eq_true]
  exact .inr ⟨f, hf, contains_iff.mpr List.infix_rfl⟩

/-- A document keeps the matches of all such expressions exactly if it contains the texts. -/
theorem Document.keeps_matches_iff :
    (∀ e : Expr, (Expr.not e).terms = [] → d.satisfies e = true → d'.satisfies e = true) ↔
      ∀ f ∈ d.fragments, d'.contains f.folded = true := by
  constructor
  · intro h f hf
    have hterm := h (.term f.text) rfl (satisfies_term_text hf)
    rwa [satisfies, fold_eq_lower] at hterm
  · intro h e hterms
    exact satisfies_of_texts_kept hterms h

end

/-! ### Transactions -/

/-- The text is a text of the transaction, or the beginning, the middle or the end of one. It may be
such a part only if it settles its sigmas. -/
def HasText (l : Ledger) (t : Transaction) (s : String) : Prop :=
  ∃ field s', IsSearchable l t field s' ∧
    (s' = s ∨ (s.toList <:+: s'.toList ∧ SigmasSettled s.toList))

/-- A document contains the texts that its transaction has. -/
theorem project_contains_of_hasText {l : Ledger} {t : Transaction} {s : String}
    (h : HasText l t s) : (project l t).contains (lower s) = true := by
  obtain ⟨field, s', hs', htext⟩ := h
  refine project_contains_iff.mpr (.inr ⟨field, s', hs', ?_⟩)
  rcases htext with rfl | ⟨hpart, hsettled⟩
  · exact List.infix_rfl
  · exact occursIn_of_infix_iff.mpr hsettled s' hpart

/-- A transaction that has the texts of another keeps the matches of expressions without a term
under an odd number of negations. -/
theorem satisfies_of_hasText {l l' : Ledger} {t t' : Transaction}
    (h : ∀ field s, IsSearchable l t field s → HasText l' t' s) {e : Expr}
    (hterms : (Expr.not e).terms = []) (ht : (project l t).satisfies e = true) :
    (project l' t').satisfies e = true := by
  refine Document.satisfies_of_texts_kept hterms (fun f hf => ?_) ht
  exact project_contains_of_hasText (h f.field f.text (mem_project_iff.mp hf).1)

/-- A payee may grow in every way exactly if it settles its sigmas. -/
theorem payee_grows_iff (s : String) :
    (∀ s' : String, s.toList <:+: s'.toList → ∀ e : Expr, (Expr.not e).terms = [] →
        (project {} { payee := some s }).satisfies e = true →
          (project {} { payee := some s' }).satisfies e = true) ↔
      SigmasSettled s.toList := by
  constructor
  · intro h
    rw [← occursIn_of_infix_iff]
    intro s' hpart
    -- the term that tells is the payee itself
    have hself : Holds {} { payee := some s } (.term s) :=
      holds_term_payee_iff.mpr (.inr List.infix_rfl)
    have hgrown := h s' hpart (.term s) rfl (satisfies_iff_holds.mpr hself)
    rcases holds_term_payee_iff.mp (satisfies_iff_holds.mp hgrown) with rfl | hoccurs
    · exact List.nil_infix
    · exact hoccurs
  · intro hsettled s' hpart e hterms
    refine satisfies_of_hasText ?_ hterms
    intro field text htext
    obtain ⟨-, rfl⟩ := isSearchable_payee_iff.mp htext
    exact ⟨.payee, s', rfl, .inr ⟨hpart, hsettled⟩⟩

/-- **In which direction text matters.** A match is kept by a document that contains the terms under
an even number of negations that were contained before, and of those under an odd number no others
than before. Where there is none of the second kind, it is enough that each text is still contained,
and nothing less is enough for all expressions. A transaction to which text is added keeps such a
match if the texts that it had are there as they were, or have become longer and settle the form of
their sigmas. Other texts may not become longer in every way. -/
theorem satisfies_monotone_in_texts (d d' : Document) :
    (∀ e : Expr,
      (∀ term ∈ e.terms, d.contains (fold term) = true → d'.contains (fold term) = true) →
      (∀ term ∈ (Expr.not e).terms,
        d'.contains (fold term) = true → d.contains (fold term) = true) →
      d.satisfies e = true → d'.satisfies e = true) ∧
    ((∀ e : Expr, (Expr.not e).terms = [] → d.satisfies e = true → d'.satisfies e = true) ↔
      ∀ f ∈ d.fragments, d'.contains f.folded = true) ∧
    (∀ (l l' : Ledger) (t t' : Transaction),
      (∀ field s, IsSearchable l t field s → HasText l' t' s) →
      ∀ e : Expr, (Expr.not e).terms = [] →
        (project l t).satisfies e = true → (project l' t').satisfies e = true) ∧
    ∀ s : String,
      (∀ s' : String, s.toList <:+: s'.toList → ∀ e : Expr, (Expr.not e).terms = [] →
        (project {} { payee := some s }).satisfies e = true →
          (project {} { payee := some s' }).satisfies e = true) ↔
        SigmasSettled s.toList := by
  refine ⟨?_, Document.keeps_matches_iff, ?_, payee_grows_iff⟩
  · intro e hgain hlose
    simp only [fold_eq_lower] at hgain hlose
    exact Document.satisfies_mono hgain hlose
  · intro l l' t t' htexts e hterms
    exact satisfies_of_hasText htexts hterms

/-- The expression `costa AND NOT tesco` still holds of a document that has lost a text, and
`corner AND NOT NOT treat` of a transaction with a longer payee and one text more. -/
theorem satisfies_monotone_in_texts_grown :
    let e := Expr.and (.term "costa") (.not (.term "tesco"))
    let e' := Expr.and (.term "corner") (.not (.not (.term "treat")))
    let t : Transaction := { payee := some "Corner shop", tagIds := [8] }
    let t' := { t with payee := some "Old Corner shop", description := some "Tea" }
    Document.satisfies ⟨[⟨.payee, "Costa Coffee"⟩]⟩ e = true ∧
      (project tangledLedger t).satisfies e' = true ∧
      (project tangledLedger t').satisfies e' = true := by
  intro e e' t t'
  obtain ⟨hterms, -, htexts, -⟩ := satisfies_monotone_in_texts
    ⟨[⟨.payee, "Costa"⟩, ⟨.tag, "Work"⟩]⟩ ⟨[⟨.payee, "Costa Coffee"⟩]⟩
  refine ⟨hterms e (by decide) (by decide) (by decide), ?_⟩
  have ht : (project tangledLedger t).satisfies e' = true := by decide
  refine ⟨ht, htexts tangledLedger _ t t' ?_ e' (by decide) ht⟩
  intro field s hs
  cases field with
  | payee =>
      cases hs
      exact ⟨.payee, _, rfl, .inr ⟨⟨"Old ".toList, [], rfl⟩, by decide⟩⟩
  | tag => exact ⟨.tag, s, hs, .inl rfl⟩
  | counterparty | description | category | bank | account | trip =>
      simp [IsSearchable, IsAccountOf] at hs

/-- The payee `ΜΟΥΣ` is found by its four letters. With three letters more it is not. -/
theorem grown_payee_lost :
    let e := Expr.term "ΜΟΥΣ"
    (Expr.not e).terms = [] ∧ "ΜΟΥΣ".toList <:+: "ΜΟΥΣΕΙΟ".toList ∧
      (project {} { payee := some "ΜΟΥΣ" }).satisfies e = true ∧
      (project {} { payee := some "ΜΟΥΣΕΙΟ" }).satisfies e = false := by
  refine ⟨rfl, ⟨[], "ΕΙΟ".toList, rfl⟩, ?_⟩
  decide +kernel

end LedgerSearch.Search
