import LedgerSearch.Proofs.Query.Alike
import LedgerSearch.Proofs.Query.Position

/-!
# `LedgerSearch.Proofs.Query.EndOfQuery`: only the tokens up to the end of the query count

The parser takes a row of tokens as it is given, and the row need not come from a query. It may lack
its end, hold further tokens behind the end, or carry offsets that belong to another text.
`parseTokens_congr_of_ahead` states that none of this steers the parser. Two rows with the same
tokens up to the first end of the query have the same tree, or fail for the same cause at the same
token, and an error speaks of the query that came with its row.

This is the theorem on alike rows (`agrees_parseTokens`) for texts that are not only related but
equal. Alike tokens, trees and causes are then the same.
-/

set_option autoImplicit false

namespace LedgerSearch.Query

theorem Token.alike_refl (t : Token) : t.Alike Eq t := by
  cases t with
  | term text => exact .term rfl
  | phrase text => exact .phrase rfl
  | and => exact .and
  | or => exact .or
  | not => exact .not
  | openParen => exact .openParen
  | closeParen => exact .closeParen
  | endOfQuery => exact .endOfQuery

theorem Token.Alike.eq {t t' : Token} (h : t.Alike Eq t') : t = t' := by
  cases h with
  | term h | phrase h => rw [h]
  | and | or | not | openParen | closeParen | endOfQuery => rfl

theorem Expr.Alike.eq {e e' : Expr} (h : e.Alike Eq e') : e = e' := by
  induction h with
  | matchAll => rfl
  | term h => rw [h]
  | and _ _ ihl ihr | or _ _ ihl ihr => rw [ihl, ihr]
  | not _ ih => rw [ih]

theorem SyntaxErrorKind.Alike.eq {kind kind' : SyntaxErrorKind} (h : kind.Alike Eq kind') :
    kind = kind' := by
  cases h with
  | unexpectedEnd h | unexpectedToken h | missingOperator h => rw [h.eq]
  | unexpectedStart | unmatchedClose | unclosedOpen | tooDeep => rfl

/-- On rows with the same tokens ahead the parser returns the same up to the queries and offsets. -/
theorem agrees_parseTokens_of_ahead {query query' : String} {options : ParseOptions}
    {lexemes lexemes' : List Lexeme}
    (h : (Cursor.start lexemes).ahead = (Cursor.start lexemes').ahead) :
    Agrees Eq (Expr.Alike Eq) (parseTokens query lexemes options)
      (parseTokens query' lexemes' options) := by
  refine agrees_parseTokens ?_
  rw [h]
  exact List.forall₂_same.mpr fun t _ => t.alike_refl

/-- **Only the tokens up to the end of the query count.** On two rows that have the same tokens up
to the first end of the query, or up to their own end where they hold none, the parser returns the
same tree, or it fails on both for the same cause and at the same token. The offsets, the queries and
whatever stands behind the end make no difference, but that each error carries the query of its own
row. -/
theorem parseTokens_congr_of_ahead {query query' : String} {options : ParseOptions}
    {lexemes lexemes' : List Lexeme}
    (h : (lexemes.map (·.token)).takeWhile (· ≠ .endOfQuery)
      = (lexemes'.map (·.token)).takeWhile (· ≠ .endOfQuery)) :
    match parseTokens query lexemes options, parseTokens query' lexemes' options with
    | .ok e, .ok e' => e = e'
    | .error err, .error err' =>
      err.kind = err'.kind ∧ err.tokenIndex = err'.tokenIndex ∧ err.query = query ∧
        err'.query = query'
    | .ok _, .error _ | .error _, .ok _ => False := by
  have hagrees : Agrees Eq (Expr.Alike Eq) (parseTokens query lexemes options)
      (parseTokens query' lexemes' options) := agrees_parseTokens_of_ahead h
  cases hr : parseTokens query lexemes options with
  | ok e =>
      cases hr' : parseTokens query' lexemes' options with
      | ok e' =>
          rw [hr, hr'] at hagrees
          cases hagrees with
          | ok he => exact he.eq
      | error err' =>
          rw [hr, hr'] at hagrees
          cases hagrees
  | error err =>
      cases hr' : parseTokens query' lexemes' options with
      | ok e' =>
          rw [hr, hr'] at hagrees
          cases hagrees
      | error err' =>
          rw [hr, hr'] at hagrees
          cases hagrees with
          | error hkind hindex =>
              exact ⟨hkind.eq, hindex, (parseTokens_error_position hr).query_eq,
                (parseTokens_error_position hr').query_eq⟩

/-- The row `a OR ( b`, once with the end behind it and a closing parenthesis behind the end, once
without an end and with offsets that mean nothing. The parenthesis behind the end closes nothing. -/
theorem parseTokens_congr_without_end :
    let row : List Lexeme :=
      [⟨.term "a", 0⟩, ⟨.or, 2⟩, ⟨.openParen, 5⟩, ⟨.term "b", 6⟩, ⟨.endOfQuery, 7⟩, ⟨.closeParen, 7⟩]
    let row' : List Lexeme := [⟨.term "a", 40⟩, ⟨.or, 1⟩, ⟨.openParen, 1⟩, ⟨.term "b", 0⟩]
    (row.map (·.token)).takeWhile (· ≠ .endOfQuery)
        = (row'.map (·.token)).takeWhile (· ≠ .endOfQuery) ∧
      parseTokens "a OR (b" row {} = .error ⟨.unclosedOpen, "a OR (b", 2, 5⟩ ∧
      ∃ err, parseTokens "" row' {} = .error err ∧ err.kind = .unclosedOpen ∧ err.tokenIndex = 2 := by
  intro row row'
  have h : (row.map (·.token)).takeWhile (· ≠ .endOfQuery)
      = (row'.map (·.token)).takeWhile (· ≠ .endOfQuery) := by decide
  have hrow : parseTokens "a OR (b" row {} = .error ⟨.unclosedOpen, "a OR (b", 2, 5⟩ := by cbv
  have hsame := @parseTokens_congr_of_ahead "a OR (b" "" {} row row' h
  rw [hrow] at hsame
  cases hrow' : parseTokens "" row' {} with
  | ok e => rw [hrow'] at hsame; exact hsame.elim
  | error err =>
      rw [hrow'] at hsame
      exact ⟨h, hrow, err, rfl, hsame.1.symm, hsame.2.1.symm⟩

end LedgerSearch.Query
