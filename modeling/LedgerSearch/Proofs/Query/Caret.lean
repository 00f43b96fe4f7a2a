import LedgerSearch.Proofs.Query.EndOfQuery
import LedgerSearch.Proofs.Query.ErrorKind
import LedgerSearch.Proofs.Query.Spelling
import Mathlib

/-!
# `LedgerSearch.Proofs.Query.Caret`: a syntax error is shown at its token

A syntax error is shown in two ways. `SyntaxError.near` quotes the query from the offending token
on, and `SyntaxError.render` puts a caret under it. Both start from a byte position, and a byte
position can miss: it can lie past the end of the query or inside a character. For such positions
they have an answer of their own, and so has the parser for a token that its row does not have.

`parse_error_points_into_query` says that none of these answers is ever given. The error of a query
names one of the tokens of this query, and its position is where this token begins. There the query
falls into a part in front and a part from the token on, and these two parts are what the caret and
the quotation are made from.

Three earlier results meet in it: the number in an error is that of a token
(`fits_of_parseTokens_eq_error`), the position in it is that of the same token
(`parseTokens_error_position`), and at the position of a token stands the token
(`Tiles.standsAt`). No spelling begins with a blank, so of the two trimmed ends of a quotation only
the last one can lose anything.
-/

set_option autoImplicit false

namespace LedgerSearch.Query

open LedgerSearch.Text

/-! ### The query from a token on -/

/-- What a token is written as does not begin with a blank. -/
theorem Spells.not_isBlank_head {t : Token} {spelling following : List Char}
    (h : Spells t spelling following) : ∀ c ∈ spelling.head?, isBlank c = false := by
  have hword : ∀ word : List Char, (∀ c ∈ word, isWordChar c = true) →
      ∀ c ∈ word.head?, isBlank c = false := by
    intro word hchars c hc
    exact (isWordChar_iff.mp (hchars c (List.mem_of_mem_head? hc))).1
  cases h with
  | openParen | closeParen | phrase | openPhrase =>
      rintro c ⟨⟩
      decide
  | operator ht hcase _ =>
      exact hword _ (isWordChar_of_isCaseVariant (Token.isUpper_of_mem_capitals ht) hcase)
  | term _ hchars _ _ => exact hword _ hchars

/-- A token cuts the query in two. The part from the token on begins with no blank, and only the end
of the query leaves nothing for it. -/
theorem exists_cut_of_mem_lex {query : String} {x : Lexeme} (hx : x ∈ lex query) :
    ∃ before after, query.toList = before ++ after ∧ byteLength before = x.offset ∧
      (∀ c ∈ after.head?, isBlank c = false) ∧ (after = [] ↔ x.token = .endOfQuery) := by
  have htiles : Tiles 0 query.toList (lex query) := tiles_lexFrom 0 query.toList
  obtain ⟨before, after, hquery, hoffset, hafter⟩ := htiles.standsAt x hx
  rw [Nat.zero_add] at hoffset
  refine ⟨before, after, hquery, hoffset.symm, ?_⟩
  rcases hafter with ⟨hend, rfl⟩ | ⟨spelling, rest, rfl, hs⟩
  · exact ⟨by simp, by simp [hend]⟩
  · have hne : spelling ++ rest ≠ [] := List.append_ne_nil_of_left_ne_nil hs.ne_nil rest
    refine ⟨?_, iff_of_false hne hs.ne_endOfQuery⟩
    rw [List.head?_append_of_ne_nil spelling hs.ne_nil]
    exact hs.not_isBlank_head

section
variable {cs : List Char}

/-- Where no blank stands in front, trimming takes the blanks at the end and nothing else. -/
theorem trim_eq_rdropWhile (h : ∀ c ∈ cs.head?, isBlank c = false) :
    trim cs = cs.rdropWhile isBlank := by
  have hfront : cs.dropWhile isBlank = cs := by
    cases cs with
    | nil => rfl
    | cons c cs => exact List.dropWhile_cons_of_neg (by rw [h c rfl]; decide)
  rw [trim, hfront]
  rfl

theorem rdropWhile_isBlank_eq_nil_iff (h : ∀ c ∈ cs.head?, isBlank c = false) :
    cs.rdropWhile isBlank = [] ↔ cs = [] := by
  rw [List.rdropWhile_eq_nil_iff]
  cases cs with
  | nil => simp
  | cons c cs =>
      have hc : isBlank c = false := h c rfl
      simp [hc]

end

/-! ### How an error is shown -/

namespace SyntaxError

/-- `near` with the answer `other` for a position at which the query cannot be cut. -/
def nearOr (other : String) (e : SyntaxError) : String :=
  match splitAtByte e.query.toList e.position with
  | some (_, rest) => String.ofList (trim rest)
  | none => other

/-- `caretColumn` with the answer `other` for a position at which the query cannot be cut. -/
def caretColumnOr (other : Nat) (e : SyntaxError) : Nat :=
  match splitAtByte e.query.toList e.position with
  | some (before, _) => before.length
  | none => other

/-- The error is shown at the token `x` of the query, which has `before` in front of this token and
`after` from it on. -/
structure IsShownAt (query : String) (x : Lexeme) (before after : List Char) (e : SyntaxError) :
    Prop where
  query_eq : e.query = query
  position_eq : e.position = x.offset
  cut : query.toList = before ++ after
  byteLength_before : byteLength before = e.position
  position_le : e.position ≤ query.utf8ByteSize
  /-- The quotation is the query from the token on, without the blanks at its end. -/
  near_eq : e.near = String.ofList (after.rdropWhile isBlank)
  near_eq_empty_iff : e.near = "" ↔ x.token = .endOfQuery
  /-- Behind the two columns of the margin, the caret has as many spaces in front of it as the query
  has characters in front of the token. -/
  render_eq : e.render = "query syntax error: " ++ e.message ++ "\n  " ++ query ++ "\n  "
    ++ String.ofList (List.replicate before.length ' ') ++ "^"
    ++ e.hint.elim "" ("\nhint: " ++ ·)
  /-- What `near` answers at a position outside the query does not matter. -/
  near_eq_nearOr : ∀ other, e.near = e.nearOr other
  /-- What `caretColumn` answers there does not matter either. -/
  caretColumn_eq_caretColumnOr : ∀ other, e.caretColumn = e.caretColumnOr other

/-- A position behind a part of the query that is followed by no blank shows the error there. -/
theorem isShownAt {e : SyntaxError} {x : Lexeme} {before after : List Char}
    (hposition : e.position = x.offset) (hcut : e.query.toList = before ++ after)
    (hbefore : byteLength before = x.offset) (hhead : ∀ c ∈ after.head?, isBlank c = false)
    (hend : after = [] ↔ x.token = .endOfQuery) : e.IsShownAt e.query x before after := by
  have hsplit : splitAtByte e.query.toList e.position = some (before, after) := by
    rw [hposition, hcut, ← hbefore, splitAtByte_append]
  have hle : e.position ≤ e.query.utf8ByteSize := by
    rw [hposition, ← hbefore, ← byteLength_toList, hcut, byteLength_append]
    exact Nat.le_add_right _ _
  have hnear : e.near = String.ofList (trim after) := by
    rw [near, Nat.min_eq_left hle, hsplit]
  have hcolumn : e.caretColumn = before.length := by
    rw [caretColumn, hsplit]
  rw [trim_eq_rdropWhile hhead] at hnear
  exact
    { query_eq := rfl
      position_eq := hposition
      cut := hcut
      byteLength_before := by rw [hposition, hbefore]
      position_le := hle
      near_eq := hnear
      near_eq_empty_iff := by
        rw [hnear, ← String.toList_eq_nil_iff, String.toList_ofList,
          rdropWhile_isBlank_eq_nil_iff hhead, hend]
      render_eq := by
        unfold render
        rw [hcolumn]
        cases e.hint <;> rfl
      near_eq_nearOr := fun other => by
        rw [nearOr, hsplit, hnear, ← trim_eq_rdropWhile hhead]
      caretColumn_eq_caretColumnOr := fun other => by rw [caretColumnOr, hsplit, hcolumn] }

end SyntaxError

/-! ### The error of a query -/

section
variable {query : String} {options : ParseOptions} {err : SyntaxError}

/-- The token that the error of a query names is one of the query, and the position in the error is
its offset. -/
theorem exists_lexeme_of_parse_eq_error (h : parse query options = .error err) :
    ∃ x, (lex query)[err.tokenIndex]? = some x ∧ err.position = x.offset := by
  obtain ⟨ts, hts, hend⟩ := tokensOf_eq_append query.toList
  obtain ⟨t, ht, -⟩ := fits_of_parseTokens_eq_error hend hts h
  have hx : (tokensOf query.toList)[err.tokenIndex]? = some t := by rw [hts, ht]
  rw [tokensOf, List.getElem?_map, Option.map_eq_some_iff] at hx
  obtain ⟨x, hx, -⟩ := hx
  have hx' : (lex query)[err.tokenIndex]? = some x := hx
  refine ⟨x, hx', ?_⟩
  rw [(parseTokens_error_position h).position_eq, offsetAt, hx']

/-- **A syntax error points into its query.** Where a query is refused, the error carries the query
and names one of its tokens. Its position is the offset of this token, where a character begins or
the query ends. What the error quotes is the query from the token on, without the blanks at its end,
and that is nothing exactly at the end of the query. The caret has as many spaces in front of it,
behind the margin, as the query has characters in front of the token.

No answer for a place outside of the query is ever given. It does not matter what `near` and
`caretColumn` answer there. The parser itself reads the length of the text it is handed for the
offset of a token that its row does not have, and for nothing else; and with any text in place of
the query it comes to the same error, but for the text in it. -/
theorem parse_error_points_into_query (h : parse query options = .error err) :
    (∃ x before after, (lex query)[err.tokenIndex]? = some x ∧
      err.IsShownAt query x before after) ∧
    ∀ text, parseTokens text (lex query) options = .error { err with query := text } := by
  obtain ⟨x, hx, hposition⟩ := exists_lexeme_of_parse_eq_error h
  have hquery : err.query = query := (parseTokens_error_position h).query_eq
  constructor
  · obtain ⟨before, after, hcut, hbefore, hhead, hend⟩ :=
      exists_cut_of_mem_lex (List.mem_of_getElem? hx)
    rw [← hquery] at hcut
    have hshown := SyntaxError.isShownAt hposition hcut hbefore hhead hend
    rw [hquery] at hshown
    exact ⟨x, before, after, hx, hshown⟩
  · intro text
    have hagrees : Agrees Eq (Expr.Alike Eq) (parse query options)
        (parseTokens text (lex query) options) := agrees_parseTokens_of_ahead rfl
    rw [h] at hagrees
    cases hr : parseTokens text (lex query) options with
    | ok e =>
        rw [hr] at hagrees
        cases hagrees
    | error err' =>
        rw [hr] at hagrees
        cases hagrees with
        | error hkind hindex =>
            have hpoints := parseTokens_error_position hr
            have hposition' : err'.position = x.offset := by
              rw [hpoints.position_eq, offsetAt, ← hindex, hx]
            obtain ⟨kind, query', tokenIndex, position⟩ := err'
            obtain rfl : query' = text := hpoints.query_eq
            rw [hkind.eq, hindex, hposition, ← hposition']

/-- In `é (b` with two blanks behind it, the parenthesis is the second token and the third character,
and begins behind the third byte. -/
theorem parse_error_points_into_query_accent :
    let query := "é (b  "
    let err : SyntaxError := ⟨.unclosedOpen, query, 1, 3⟩
    parse query {} = .error err ∧
      (∃ x before after, (lex query)[1]? = some x ∧ err.IsShownAt query x before after) ∧
      parseTokens "" (lex query) {} = .error ⟨.unclosedOpen, "", 1, 3⟩ ∧
      err.near = "(b" ∧ err.caretColumn = 2 := by
  intro query err
  have h : parse query {} = .error err := by cbv
  obtain ⟨hshown, hany⟩ := parse_error_points_into_query h
  exact ⟨h, hshown, hany "", by cbv, by cbv⟩

end

end LedgerSearch.Query
