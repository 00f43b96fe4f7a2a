import LedgerSearch.Query.Expr
import LedgerSearch.Search.Document

/-!
# `LedgerSearch.Search.Match`: whether a document satisfies an expression, and why

The operators have their boolean meaning, and a term holds when it occurs in a fragment, case
ignored. Terms need not be in lower case, but an expression that is asked of many documents is
folded once beforehand.

What speaks for a match are the fields in which a term under an even number of negations occurs.
-/

set_option autoImplicit false

namespace LedgerSearch.Search

open LedgerSearch.Query (Expr)

/-- The document satisfies the expression. -/
def Document.satisfies (d : Document) : Expr → Bool
  | .matchAll => true
  | .term text => d.contains (Text.fold text)
  | .and left right => d.satisfies left && d.satisfies right
  | .or left right => d.satisfies left || d.satisfies right
  | .not inner => !d.satisfies inner

/-- The field has a fragment in which the term occurs. An empty term occurs in no field. -/
def Document.fieldContains (d : Document) (field : Field) (term : String) : Bool :=
  let needle := Text.fold term
  !needle.isEmpty && d.fragments.any fun f => f.field = field && f.contains needle

/-- The fields that speak for a match, in the order of `Field.all`. -/
def matchedFields (e : Expr) (d : Document) : List Field :=
  Field.all.filter fun field => e.terms.any (d.fieldContains field)

end LedgerSearch.Search
