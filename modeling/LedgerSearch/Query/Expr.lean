import LedgerSearch.Text.Escape
import LedgerSearch.Text.LowerCase

/-!
# `LedgerSearch.Query.Expr`: what a query means, as a tree

A parsed query is a tree of the three boolean operators over terms. Words and quoted phrases are one
and the same here, and parentheses leave no trace but the shape of the tree. The tree can be shown
in two ways: as an indented listing (`Expr.listing`) and as a query again, with every operator
parenthesised and every term quoted (`Expr.canonical`).
-/

set_option autoImplicit false

namespace LedgerSearch.Query

/-- A query expression. -/
inductive Expr
  /-- Holds of every transaction; what an empty query means. -/
  | matchAll
  /-- Holds where the text occurs, case ignored. -/
  | term (text : String)
  | and (left right : Expr)
  | or (left right : Expr)
  | not (inner : Expr)
deriving DecidableEq, Repr, Inhabited

namespace Expr

/-- Holds of every transaction without a look at it. -/
def isMatchAll : Expr → Bool
  | matchAll => true
  | _ => false

/-- The expression with every term in lower case. -/
def foldCase : Expr → Expr
  | matchAll => matchAll
  | term text => term (Text.lower text)
  | and left right => and left.foldCase right.foldCase
  | or left right => or left.foldCase right.foldCase
  | not inner => not inner.foldCase

/-- The terms under an even number of negations (`negated` false) or an odd one, from left to
right. -/
def termsUnder (negated : Bool) : Expr → List String
  | matchAll => []
  | term text => if negated then [] else [text]
  | and left right | or left right => left.termsUnder negated ++ right.termsUnder negated
  | not inner => inner.termsUnder (!negated)

/-- The terms whose presence speaks for a match: those under an even number of negations. -/
def terms (e : Expr) : List String :=
  e.termsUnder false

/-- The lines of the listing, each node before its operands and these two columns further in. -/
def listingLines (indent : Nat) : Expr → List String
  | matchAll => [margin indent ++ "MatchAll"]
  | term text => [margin indent ++ "Term(" ++ Text.quoted text ++ ")"]
  | not inner => (margin indent ++ "Not") :: inner.listingLines (indent + 1)
  | and left right =>
    (margin indent ++ "And") :: (left.listingLines (indent + 1) ++ right.listingLines (indent + 1))
  | or left right =>
    (margin indent ++ "Or") :: (left.listingLines (indent + 1) ++ right.listingLines (indent + 1))
where
  /-- The blank columns before a node at the given depth. -/
  margin (indent : Nat) : String := String.ofList (List.replicate (2 * indent) ' ')

/-- The expression as an indented listing, one line per node. -/
def listing (e : Expr) : String :=
  String.join ((e.listingLines 0).map (· ++ "\n"))

/-- The expression as a query: operators parenthesised, terms quoted, nothing for `matchAll`. -/
def canonical : Expr → String
  | matchAll => ""
  | term text => "\"" ++ text ++ "\""
  | not inner => "NOT " ++ inner.canonical
  | and left right => "(" ++ left.canonical ++ " AND " ++ right.canonical ++ ")"
  | or left right => "(" ++ left.canonical ++ " OR " ++ right.canonical ++ ")"

end Expr

end LedgerSearch.Query
