import LedgerSearch.Proofs.Query.Parser

/-!
# `LedgerSearch.Proofs.Query.Position`: the byte position of an error is that of its token

An error names its place twice, by the number of a token and by a byte position in the query. The
parser takes both from the place it is at, and the position of a place is the offset of the token
that comes next. So the position adds nothing to the number: it is the offset of the token with
that number, or the length of the query where the row of tokens has no such token
(`parseTokens_error_position`).

What carries the proof is that the parser only ever moves along its row. The tokens still to be
read are those of the row behind the ones that were counted (`Cursor.IsIn`), whatever was opened and
closed on the way. Each function of the parser keeps to that and fails only with errors that fit the
row (`Keeps`), one lemma for each function.
-/

set_option autoImplicit false

namespace LedgerSearch.Query

/-! ### Places in a row of tokens -/

/-- Where the token with the number `index` begins; past the last one, where the query ends. -/
def offsetAt (query : String) (lexemes : List Lexeme) (index : Nat) : Nat :=
  match lexemes[index]? with
  | some lexeme => lexeme.offset
  | none => query.utf8ByteSize

/-- The place is in the row: what is still to be read is the row without what has been read. -/
def Cursor.IsIn (lexemes : List Lexeme) (s : Cursor) : Prop :=
  s.rest = lexemes.drop s.index

/-- The error carries the query, and its position is that of the token it names. -/
structure SyntaxError.PointsInto (query : String) (lexemes : List Lexeme) (err : SyntaxError) :
    Prop where
  query_eq : err.query = query
  position_eq : err.position = offsetAt query lexemes err.tokenIndex

/-- A result leads to a place in the row, and an error points into the row. -/
def Keeps (query : String) (lexemes : List Lexeme) : Except SyntaxError (Expr × Cursor) → Prop
  | .ok p => p.2.IsIn lexemes
  | .error err => err.PointsInto query lexemes

section
variable {query : String} {lexemes : List Lexeme} {s : Cursor}

namespace Cursor.IsIn

theorem start (lexemes : List Lexeme) : (Cursor.start lexemes).IsIn lexemes :=
  rfl

theorem advance (h : s.IsIn lexemes) : s.advance.IsIn lexemes := by
  unfold Cursor.IsIn Cursor.advance at *
  cases hrest : s.rest with
  | nil => exact h
  | cons lexeme rest =>
      -- one token fewer ahead is one token more to drop
      show rest = lexemes.drop (s.index + 1)
      rw [← List.tail_drop, ← h, hrest, List.tail_cons]

theorem withOpen (h : s.IsIn lexemes) (groups nesting : Nat) :
    (s.withOpen groups nesting).IsIn lexemes :=
  h

theorem offset_eq (h : s.IsIn lexemes) : s.offset query = offsetAt query lexemes s.index := by
  unfold offsetAt Cursor.offset
  rw [← List.head?_drop, ← h]
  cases s.rest <;> rfl

theorem pointsInto (h : s.IsIn lexemes) (kind : SyntaxErrorKind) :
    SyntaxError.PointsInto query lexemes ⟨kind, query, s.index, s.offset query⟩ :=
  ⟨rfl, h.offset_eq⟩

theorem pointsInto_missingOperand (h : s.IsIn lexemes) :
    (missingOperand query s).PointsInto query lexemes := by
  unfold missingOperand
  split <;> exact h.pointsInto _

end Cursor.IsIn

/-- What follows a result starts at the place the result leads to. -/
theorem Keeps.bind {r : Except SyntaxError (Expr × Cursor)}
    {f : Expr × Cursor → Except SyntaxError (Expr × Cursor)} (h : Keeps query lexemes r)
    (hf : ∀ p, r = .ok p → p.2.IsIn lexemes → Keeps query lexemes (f p)) :
    Keeps query lexemes (r >>= f) := by
  cases r with
  | error err => exact h
  | ok p => exact hf p rfl h

end

/-! ### The functions of the parser

Each keeps to the row, by the recursion of the parser. Only an error that concerns more than the
next token is not at the place it is found at. -/

section
variable {query : String} {options : ParseOptions} {lexemes : List Lexeme}

mutual

theorem keeps_readDisjunction {s : Cursor} (h : s.IsIn lexemes) :
    Keeps query lexemes (readDisjunction query options s) := by
  rw [readDisjunction_eq]
  refine (keeps_readConjunction h).bind ?_
  rintro ⟨left, s₁⟩ h₁ hs₁
  have hlt : s₁.rest.length < s.rest.length := property_of_bare_eq_ok h₁
  exact keeps_readDisjuncts left hs₁
termination_by (s.rest.length, 5)

theorem keeps_readDisjuncts (left : Expr) {s : Cursor} (h : s.IsIn lexemes) :
    Keeps query lexemes (readDisjuncts query options left s) := by
  rw [readDisjuncts_eq]
  by_cases hor : s.peek = .or
  · rw [if_pos hor]
    have hlt₀ := Cursor.advance_lt (s := s) (by simp [hor])
    refine (keeps_readConjunction h.advance).bind ?_
    rintro ⟨right, s₁⟩ h₁ hs₁
    have hlt : s₁.rest.length < s.advance.rest.length := property_of_bare_eq_ok h₁
    exact keeps_readDisjuncts (.or left right) hs₁
  · rw [if_neg hor]
    exact h
termination_by (s.rest.length, 6)

theorem keeps_readConjunction {s : Cursor} (h : s.IsIn lexemes) :
    Keeps query lexemes (readConjunction query options s) := by
  rw [readConjunction_eq]
  refine (keeps_readNegation h).bind ?_
  rintro ⟨left, s₁⟩ h₁ hs₁
  have hlt : s₁.rest.length < s.rest.length := property_of_bare_eq_ok h₁
  exact keeps_readConjuncts left hs₁
termination_by (s.rest.length, 4)

theorem keeps_readConjuncts (left : Expr) {s : Cursor} (h : s.IsIn lexemes) :
    Keeps query lexemes (readConjuncts query options left s) := by
  rw [readConjuncts_eq]
  by_cases hand : s.peek = .and
  · rw [if_pos hand]
    have hlt₀ := Cursor.advance_lt (s := s) (by simp [hand])
    refine (keeps_readNegation h.advance).bind ?_
    rintro ⟨right, s₁⟩ h₁ hs₁
    have hlt : s₁.rest.length < s.advance.rest.length := property_of_bare_eq_ok h₁
    exact keeps_readConjuncts (.and left right) hs₁
  · rw [if_neg hand]
    by_cases hop : s.peek.startsOperand
    · rw [if_pos hop]
      by_cases himp : options.implicitAnd
      · rw [if_pos himp]
        refine (keeps_readNegation h).bind ?_
        rintro ⟨right, s₁⟩ h₁ hs₁
        have hlt : s₁.rest.length < s.rest.length := property_of_bare_eq_ok h₁
        exact keeps_readConjuncts (.and left right) hs₁
      · rw [if_neg himp]
        exact h.pointsInto _
    · rw [if_neg hop]
      exact h
termination_by (s.rest.length, 6)

theorem keeps_readNegation {s : Cursor} (h : s.IsIn lexemes) :
    Keeps query lexemes (readNegation query options s) := by
  rw [readNegation_eq]
  by_cases hnot : s.peek = .not
  · rw [if_pos hnot]
    by_cases hdeep : s.nesting + 1 > maxNesting
    -- the opening token has been taken, so the error is at the one behind it
    · rw [if_pos hdeep]
      exact h.advance.pointsInto _
    · rw [if_neg hdeep]
      have hlt : s.enterNegation.rest.length < s.rest.length :=
        Cursor.advance_lt (s := s) (by simp [hnot])
      refine (keeps_readNegation (h.advance.withOpen _ _)).bind ?_
      rintro ⟨inner, s₁⟩ - hs₁
      exact hs₁.withOpen _ _
  · rw [if_neg hnot]
    exact keeps_readPrimary h hnot
termination_by (s.rest.length, 3)

theorem keeps_readPrimary {s : Cursor} (h : s.IsIn lexemes) (hnot : s.peek ≠ .not) :
    Keeps query lexemes (readPrimary query options s) := by
  by_cases hop : s.peek.startsOperand
  · rcases Token.startsOperand_cases hop with ⟨text, htext⟩ | hgroup | hnot'
    · rw [readPrimary_of_operand query options htext]
      exact h.advance
    · rw [readPrimary_of_openParen query options hgroup]
      by_cases hdeep : s.nesting + 1 > maxNesting
      · rw [if_pos hdeep]
        exact h.advance.pointsInto _
      · rw [if_neg hdeep]
        have hlt : s.enterGroup.rest.length < s.rest.length :=
          Cursor.advance_lt (s := s) (by simp [hgroup])
        refine (keeps_readDisjunction (h.advance.withOpen _ _)).bind ?_
        rintro ⟨inner, s₁⟩ - hs₁
        dsimp only
        by_cases hclose : s₁.peek = .closeParen
        · rw [if_pos hclose]
          exact hs₁.advance.withOpen _ _
        -- an error for the group as a whole points back to its opening parenthesis
        · rw [if_neg hclose]
          exact h.pointsInto _
    · exact absurd hnot' hnot
  · rw [readPrimary_of_none query options (Bool.not_eq_true _ ▸ hop)]
    exact h.pointsInto_missingOperand
termination_by (s.rest.length, 2)

end

/-- **The position of an error is that of its token.** An error of the parser carries the query it
was given, and its position is the offset of the token it names, or the length of the query if the
row ends before. -/
theorem parseTokens_error_position {err : SyntaxError}
    (h : parseTokens query lexemes options = .error err) : err.PointsInto query lexemes := by
  rw [parseTokens_eq] at h
  by_cases hend : (Cursor.start lexemes).peek = .endOfQuery
  · rw [if_pos hend] at h
    cases h
  · rw [if_neg hend] at h
    have hkeeps : Keeps query lexemes (readDisjunction query options (Cursor.start lexemes)) :=
      keeps_readDisjunction (.start lexemes)
    rcases bind_eq_error h with h₁ | ⟨⟨e, s⟩, h₁, h₂⟩
    · rw [h₁] at hkeeps
      exact hkeeps
    · rw [h₁] at hkeeps
      dsimp only at h₂
      split at h₂ <;> cases h₂ <;> exact hkeeps.pointsInto _

end

end LedgerSearch.Query
