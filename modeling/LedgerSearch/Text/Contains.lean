/-!
# `LedgerSearch.Text.Contains`: substrings

A needle is contained in a text when it stands somewhere in it as a contiguous run of characters.
`contains_iff` says so; the test itself goes through the text once.
-/

set_option autoImplicit false

namespace LedgerSearch.Text

/-- The characters of `needle` stand contiguously somewhere in the second list. -/
def occursIn (needle : List Char) : List Char → Bool
  | [] => needle.isEmpty
  | c :: cs => needle.isPrefixOf (c :: cs) || occursIn needle cs

/-- The text `hay` contains `needle`. -/
def contains (hay needle : String) : Bool :=
  occursIn needle.toList hay.toList

theorem occursIn_iff {needle hay : List Char} : occursIn needle hay = true ↔ needle <:+: hay := by
  induction hay with
  | nil => simp [occursIn]
  | cons c cs ih => simp [occursIn, ih, List.infix_cons_iff]

theorem contains_iff {hay needle : String} :
    contains hay needle = true ↔ needle.toList <:+: hay.toList :=
  occursIn_iff

end LedgerSearch.Text
