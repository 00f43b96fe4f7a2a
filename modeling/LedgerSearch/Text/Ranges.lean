/-!
# `LedgerSearch.Text.Ranges`: character properties as lists of code-point ranges

Several rules of this library hang on a property that Unicode gives character by character. A
property is held as a list of closed ranges of code points and asked with `CodeRanges.has`.
-/

set_option autoImplicit false

namespace LedgerSearch.Text

/-- Closed ranges of code points, each given by its first and its last. -/
abbrev CodeRanges := List (Nat × Nat)

/-- One of the ranges holds the character. -/
def CodeRanges.has (ranges : CodeRanges) (c : Char) : Bool :=
  ranges.any fun range => range.1 ≤ c.toNat && c.toNat ≤ range.2

theorem CodeRanges.has_iff {ranges : CodeRanges} {c : Char} :
    ranges.has c = true ↔ ∃ range ∈ ranges, range.1 ≤ c.toNat ∧ c.toNat ≤ range.2 := by
  simp [CodeRanges.has]

end LedgerSearch.Text
