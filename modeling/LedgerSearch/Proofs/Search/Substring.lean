import LedgerSearch.Proofs.Search.Satisfaction
import LedgerSearch.Proofs.Text.FinalSigma

/-!
# `LedgerSearch.Proofs.Search.Substring`: whether text copied out of a transaction finds it

A term is meant to hold where it occurs in a text of the transaction, whatever the case of letters.
What is compared are lower-case forms, of the whole term and of the whole text, and these agree on
almost all parts of a text. They do not where a capital sigma is at stake: cut out of its word it
may end one, or no longer end one (`LedgerSearch.Proofs.Text.FinalSigma`).

`copied_text_found_iff` says for which texts it goes well. A text that settles the form of its
sigmas finds every transaction that it was copied from, a text without a capital sigma for one. Any
other text misses a transaction it can be copied from. `copied_text_missed` is such a case.
-/

set_option autoImplicit false

namespace LedgerSearch.Search

open LedgerSearch.Ledger
open LedgerSearch.Query (Expr)
open LedgerSearch.Text

/-- The text occurs in another that it is a part of, case ignored, exactly where it settles the form
of its sigmas. -/
theorem occursIn_of_infix_iff {text : String} :
    (∀ s : String, text.toList <:+: s.toList → OccursIn text s) ↔ SigmasSettled text.toList := by
  rw [← lower_infix_iff_settled]
  simp only [OccursIn, lower, String.toList_ofList]
  constructor
  · intro h hay hpart
    have hstring := h (String.ofList hay)
    rw [String.toList_ofList] at hstring
    exact hstring hpart
  · intro h s hpart
    exact h s.toList hpart

/-- A transaction with a payee only has no other text. -/
theorem isSearchable_payee_iff {field : Field} {s text : String} :
    IsSearchable {} { payee := some s } field text ↔ field = .payee ∧ text = s := by
  cases field with
  | payee =>
      show some s = some text ↔ _
      simp [eq_comm]
  | counterparty | description | category | bank | account | trip | tag =>
      simp [IsSearchable, IsAccountOf]

/-- A transaction with a payee only satisfies a term where the payee contains it. -/
theorem holds_term_payee_iff {text s : String} :
    Holds {} { payee := some s } (.term text) ↔ text = "" ∨ OccursIn text s := by
  rw [Holds]
  refine or_congr_right ⟨?_, fun h => ⟨.payee, s, rfl, h⟩⟩
  rintro ⟨field, s', hs', hoccurs⟩
  obtain ⟨-, rfl⟩ := isSearchable_payee_iff.mp hs'
  exact hoccurs

/-- **Text copied out of a transaction finds it, but for unsettled sigmas.** A text finds every
transaction it is copied from exactly where it settles the form of each of its capital sigmas. -/
theorem copied_text_found_iff (text : String) :
    (∀ (l : Ledger) (t : Transaction), ∀ f ∈ (project l t).fragments,
        text.toList <:+: f.text.toList → (project l t).satisfies (.term text) = true) ↔
      SigmasSettled text.toList := by
  rw [← occursIn_of_infix_iff]
  constructor
  · intro h s hpart
    by_cases hs : s = ""
    · subst hs
      -- no fragment has the empty text, whose only part is itself
      have hempty : text = "" := by simpa using hpart
      rw [hempty]
      exact List.infix_rfl
    · have hfragment : (⟨.payee, s⟩ : Fragment) ∈ (project {} { payee := some s }).fragments :=
        mem_project_iff.mpr ⟨rfl, hs⟩
      have hholds := satisfies_iff_holds.mp (h {} { payee := some s } _ hfragment hpart)
      rcases holds_term_payee_iff.mp hholds with rfl | hoccurs
      · exact List.nil_infix
      · exact hoccurs
  · intro h l t f hf hpart
    have hsearchable := (mem_project_iff.mp hf).1
    exact satisfies_iff_holds.mpr (.inr ⟨f.field, f.text, hsearchable, h f.text hpart⟩)

/-- The first four letters of the payee `ΜΟΥΣΕΙΟ` do not find it. -/
theorem copied_text_missed :
    let d := project {} { payee := some "ΜΟΥΣΕΙΟ" }
    (∃ f ∈ d.fragments, "ΜΟΥΣ".toList <:+: f.text.toList) ∧
      d.satisfies (.term "ΜΟΥΣ") = false := by
  intro d
  refine ⟨⟨⟨.payee, "ΜΟΥΣΕΙΟ"⟩, by decide, ?_⟩, by decide +kernel⟩
  exact ⟨[], "ΕΙΟ".toList, rfl⟩

end LedgerSearch.Search
