import LedgerSearch.Proofs.Query.Parser
import Mathlib.Data.List.Forall2

/-!
# `LedgerSearch.Proofs.Query.Alike`: the parser does not look into the texts of words and phrases

Two rows of tokens are alike when they have the same operators and parentheses in the same places
and, in between, words and phrases whose texts are related in some way, `same`. Which way that is
plays no part here: the parser moves texts into the tree and into error messages and does nothing
else with them. So it treats both rows alike. It returns two trees of one shape with related texts,
or it fails on both, for the same cause and at the same token (`agrees_parseTokens`).

Each function of the parser takes related places to related results, by the recursion of the parser
and with one lemma for each function. What two results have to do with each other is `Agrees`, and
`Agrees.bind` is the one step that all these lemmas are made of. Only the tokens up to the end of
the query are compared; the queries themselves, the offsets of the tokens and whatever stands behind
the end do not matter.
-/

set_option autoImplicit false

namespace LedgerSearch.Query

section
variable (same : String → String → Prop)

/-! ### What is alike -/

/-- The tokens are of one kind, and so are their texts. -/
inductive Token.Alike : Token → Token → Prop
  | term {text text' : String} (h : same text text') : Token.Alike (.term text) (.term text')
  | phrase {text text' : String} (h : same text text') : Token.Alike (.phrase text) (.phrase text')
  | and : Token.Alike .and .and
  | or : Token.Alike .or .or
  | not : Token.Alike .not .not
  | openParen : Token.Alike .openParen .openParen
  | closeParen : Token.Alike .closeParen .closeParen
  | endOfQuery : Token.Alike .endOfQuery .endOfQuery

/-- The trees have one shape, and related texts for terms. -/
inductive Expr.Alike : Expr → Expr → Prop
  | matchAll : Expr.Alike .matchAll .matchAll
  | term {text text' : String} (h : same text text') : Expr.Alike (.term text) (.term text')
  | and {l l' r r' : Expr} (hl : Expr.Alike l l') (hr : Expr.Alike r r') :
      Expr.Alike (.and l r) (.and l' r')
  | or {l l' r r' : Expr} (hl : Expr.Alike l l') (hr : Expr.Alike r r') :
      Expr.Alike (.or l r) (.or l' r')
  | not {e e' : Expr} (h : Expr.Alike e e') : Expr.Alike (.not e) (.not e')

/-- The causes are the same, but for the texts of the token that they name. -/
inductive SyntaxErrorKind.Alike : SyntaxErrorKind → SyntaxErrorKind → Prop
  | unexpectedEnd {t t' : Token} (h : t.Alike same t') :
      SyntaxErrorKind.Alike (.unexpectedEnd t.describe) (.unexpectedEnd t'.describe)
  | unexpectedStart :
      SyntaxErrorKind.Alike (.unexpectedEnd "start of query") (.unexpectedEnd "start of query")
  | unmatchedClose : SyntaxErrorKind.Alike .unmatchedClose .unmatchedClose
  | unclosedOpen : SyntaxErrorKind.Alike .unclosedOpen .unclosedOpen
  | unexpectedToken {t t' : Token} (h : t.Alike same t') :
      SyntaxErrorKind.Alike (.unexpectedToken t.describe) (.unexpectedToken t'.describe)
  | missingOperator {t t' : Token} (h : t.Alike same t') :
      SyntaxErrorKind.Alike (.missingOperator t.describe) (.missingOperator t'.describe)
  | tooDeep (limit : Nat) : SyntaxErrorKind.Alike (.tooDeep limit) (.tooDeep limit)

/-- The places are equally far in their rows, have the same open, and alike tokens come next. -/
structure Cursor.Alike (s s' : Cursor) : Prop where
  ahead : List.Forall₂ (Token.Alike same) s.ahead s'.ahead
  index : s.index = s'.index
  last : Option.Rel (Token.Alike same) s.last s'.last
  groups : s.groups = s'.groups
  nesting : s.nesting = s'.nesting

/-- The results are related values, or errors with alike causes at the same token. -/
inductive Agrees {α β : Type} (R : α → β → Prop) :
    Except SyntaxError α → Except SyntaxError β → Prop
  | ok {a : α} {b : β} (h : R a b) : Agrees R (.ok a) (.ok b)
  | error {err err' : SyntaxError} (hkind : err.kind.Alike same err'.kind)
      (hindex : err.tokenIndex = err'.tokenIndex) : Agrees R (.error err) (.error err')

/-- What the functions of the parser return is alike. -/
def ReadAlike (p p' : Expr × Cursor) : Prop :=
  p.1.Alike same p'.1 ∧ p.2.Alike same p'.2

end

variable {same : String → String → Prop}

/-- Results that agree still agree when what follows takes related values to results that agree. -/
theorem Agrees.bind {α β γ δ : Type} {R : α → β → Prop} {S : γ → δ → Prop}
    {r : Except SyntaxError α} {r' : Except SyntaxError β} {f : α → Except SyntaxError γ}
    {g : β → Except SyntaxError δ} (h : Agrees same R r r')
    (hfg : ∀ a b, r = .ok a → R a b → Agrees same S (f a) (g b)) :
    Agrees same S (r >>= f) (r' >>= g) := by
  cases h with
  | ok hab => exact hfg _ _ rfl hab
  | error hkind hindex => exact .error hkind hindex

/-! ### Tokens -/

section
variable {t t' u : Token}

/-- A token without a text is alike to itself only. -/
theorem Token.Alike.eq_iff (h : t.Alike same t') (hu : u.text? = none) : t = u ↔ t' = u := by
  cases h with
  | term | phrase =>
      constructor <;>
      · rintro rfl
        cases hu
  | and | or | not | openParen | closeParen | endOfQuery => exact Iff.rfl

/-- Where a text stands in one row, a related text stands in the other. -/
theorem Token.Alike.exists_text {text : String} (h : t.Alike same t')
    (ht : t = .term text ∨ t = .phrase text) :
    ∃ text', (t' = .term text' ∨ t' = .phrase text') ∧ same text text' := by
  rcases ht with rfl | rfl
  · cases h with
    | term h => exact ⟨_, .inl rfl, h⟩
  · cases h with
    | phrase h => exact ⟨_, .inr rfl, h⟩

theorem Token.Alike.startsOperand_eq (h : t.Alike same t') :
    t.startsOperand = t'.startsOperand := by
  cases h <;> rfl

end

/-! ### Places -/

namespace Cursor

namespace Alike

variable {s s' : Cursor}

/-- The end of the query comes next at both places or at neither. -/
theorem peek_eq_end_iff (h : s.Alike same s') : s.peek = .endOfQuery ↔ s'.peek = .endOfQuery := by
  have hlength := h.ahead.length_eq
  rw [← ahead_eq_nil_iff, ← ahead_eq_nil_iff, ← List.length_eq_zero_iff, hlength,
    List.length_eq_zero_iff]

/-- Where tokens come next, they are alike, and so are those behind them. -/
theorem peek_and_ahead (h : s.Alike same s') (hs : s.peek ≠ .endOfQuery) :
    s.peek.Alike same s'.peek ∧
      List.Forall₂ (Token.Alike same) s.advance.ahead s'.advance.ahead := by
  have hahead := h.ahead
  rw [ahead_eq_cons hs, ahead_eq_cons (mt h.peek_eq_end_iff.mpr hs)] at hahead
  exact List.forall₂_cons.mp hahead

/-- Alike tokens come next. -/
theorem peek (h : s.Alike same s') : s.peek.Alike same s'.peek := by
  by_cases hs : s.peek = .endOfQuery
  · rw [hs, h.peek_eq_end_iff.mp hs]
    exact .endOfQuery
  · exact (h.peek_and_ahead hs).1

theorem peek_eq_iff {u : Token} (h : s.Alike same s') (hu : u.text? = none) :
    s.peek = u ↔ s'.peek = u :=
  h.peek.eq_iff hu

/-- Taking the next token leads to places that are alike again. -/
theorem advance (h : s.Alike same s') (hs : s.peek ≠ .endOfQuery) :
    s.advance.Alike same s'.advance := by
  have hrest := rest_ne_nil hs
  have hrest' := rest_ne_nil (mt h.peek_eq_end_iff.mpr hs)
  obtain ⟨hpeek, hahead⟩ := h.peek_and_ahead hs
  refine ⟨hahead, ?_, ?_, ?_, ?_⟩
  · rw [index_advance hrest, index_advance hrest', h.index]
  · rw [last_advance hrest, last_advance hrest']
    exact .some hpeek
  · rw [groups_advance, groups_advance, h.groups]
  · rw [nesting_advance, nesting_advance, h.nesting]

theorem withOpen (h : s.Alike same s') {groups groups' nesting nesting' : Nat}
    (hg : groups = groups') (hn : nesting = nesting') :
    (s.withOpen groups nesting).Alike same (s'.withOpen groups' nesting') :=
  ⟨h.ahead, h.index, h.last, hg, hn⟩

theorem enterNegation (h : s.Alike same s') (hs : s.peek ≠ .endOfQuery) :
    s.enterNegation.Alike same s'.enterNegation :=
  (h.advance hs).withOpen h.groups (congrArg (· + 1) h.nesting)

theorem leaveNegation (h : s.Alike same s') : s.leaveNegation.Alike same s'.leaveNegation :=
  h.withOpen h.groups (congrArg (· - 1) h.nesting)

theorem enterGroup (h : s.Alike same s') (hs : s.peek ≠ .endOfQuery) :
    s.enterGroup.Alike same s'.enterGroup :=
  (h.advance hs).withOpen (congrArg (· + 1) h.groups) (congrArg (· + 1) h.nesting)

theorem leaveGroup (h : s.Alike same s') (hs : s.peek ≠ .endOfQuery) :
    s.leaveGroup.Alike same s'.leaveGroup :=
  (h.advance hs).withOpen (congrArg (· - 1) h.groups) (congrArg (· - 1) h.nesting)

end Alike

end Cursor

/-! ### The functions of the parser

Each takes alike places to results that agree. The lemmas follow the recursion of the parser: both
runs take the same branch, because the next tokens are of one kind, and what the branch calls agrees
by the lemma for it. -/

section
variable {query query' : String} {options : ParseOptions}

/-- Errors at places that are alike, with alike causes. -/
theorem Cursor.Alike.agrees_fail {s s' : Cursor} {α β : Type} {R : α → β → Prop}
    {kind kind' : SyntaxErrorKind} (h : s.Alike same s') (hkind : kind.Alike same kind') :
    Agrees same R (.error (s.fail query kind)) (.error (s'.fail query' kind')) :=
  .error hkind h.index

/-- Where an operand is missing, it is missing for the same reason. -/
theorem agrees_missingOperand {s s' : Cursor} {α β : Type} {R : α → β → Prop}
    (h : s.Alike same s') (hs : s.peek.startsOperand = false) :
    Agrees same R (.error (missingOperand query s)) (.error (missingOperand query' s')) := by
  have hpeek := h.peek
  unfold missingOperand
  generalize s.peek = t at hpeek hs
  generalize s'.peek = t' at hpeek
  cases hpeek with
  | endOfQuery =>
      refine h.agrees_fail ?_
      have hlast := h.last
      generalize s.last = last at hlast
      generalize s'.last = last' at hlast
      cases hlast with
      | some ht => exact .unexpectedEnd ht
      | none => exact .unexpectedStart
  | closeParen =>
      rw [h.groups]
      refine h.agrees_fail ?_
      split
      · exact .unmatchedClose
      · exact .unexpectedToken .closeParen
  | and => exact h.agrees_fail (.unexpectedToken .and)
  | or => exact h.agrees_fail (.unexpectedToken .or)
  | term | phrase | not | openParen => cases hs

mutual

theorem agrees_readDisjunction {s s' : Cursor} (h : s.Alike same s') :
    Agrees same (ReadAlike same) (readDisjunction query options s)
      (readDisjunction query' options s') := by
  rw [readDisjunction_eq, readDisjunction_eq]
  refine (agrees_readConjunction h).bind ?_
  rintro ⟨left, s₁⟩ ⟨left', s₁'⟩ h₁ ⟨hleft, hs₁⟩
  have hlt : s₁.rest.length < s.rest.length := property_of_bare_eq_ok h₁
  exact agrees_readDisjuncts hleft hs₁
termination_by (s.rest.length, 5)

theorem agrees_readDisjuncts {left left' : Expr} {s s' : Cursor} (hleft : left.Alike same left')
    (h : s.Alike same s') :
    Agrees same (ReadAlike same) (readDisjuncts query options left s)
      (readDisjuncts query' options left' s') := by
  rw [readDisjuncts_eq, readDisjuncts_eq]
  by_cases hor : s.peek = .or
  · rw [if_pos hor, if_pos ((h.peek_eq_iff rfl).mp hor)]
    have hend : s.peek ≠ .endOfQuery := by simp [hor]
    have hlt₀ := Cursor.advance_lt hend
    refine (agrees_readConjunction (h.advance hend)).bind ?_
    rintro ⟨right, s₁⟩ ⟨right', s₁'⟩ h₁ ⟨hright, hs₁⟩
    have hlt : s₁.rest.length < s.advance.rest.length := property_of_bare_eq_ok h₁
    exact agrees_readDisjuncts (.or hleft hright) hs₁
  · rw [if_neg hor, if_neg (mt (h.peek_eq_iff rfl).mpr hor)]
    exact .ok ⟨hleft, h⟩
termination_by (s.rest.length, 6)

theorem agrees_readConjunction {s s' : Cursor} (h : s.Alike same s') :
    Agrees same (ReadAlike same) (readConjunction query options s)
      (readConjunction query' options s') := by
  rw [readConjunction_eq, readConjunction_eq]
  refine (agrees_readNegation h).bind ?_
  rintro ⟨left, s₁⟩ ⟨left', s₁'⟩ h₁ ⟨hleft, hs₁⟩
  have hlt : s₁.rest.length < s.rest.length := property_of_bare_eq_ok h₁
  exact agrees_readConjuncts hleft hs₁
termination_by (s.rest.length, 4)

theorem agrees_readConjuncts {left left' : Expr} {s s' : Cursor} (hleft : left.Alike same left')
    (h : s.Alike same s') :
    Agrees same (ReadAlike same) (readConjuncts query options left s)
      (readConjuncts query' options left' s') := by
  rw [readConjuncts_eq, readConjuncts_eq, ← h.peek.startsOperand_eq]
  by_cases hand : s.peek = .and
  · rw [if_pos hand, if_pos ((h.peek_eq_iff rfl).mp hand)]
    have hend : s.peek ≠ .endOfQuery := by simp [hand]
    have hlt₀ := Cursor.advance_lt hend
    refine (agrees_readNegation (h.advance hend)).bind ?_
    rintro ⟨right, s₁⟩ ⟨right', s₁'⟩ h₁ ⟨hright, hs₁⟩
    have hlt : s₁.rest.length < s.advance.rest.length := property_of_bare_eq_ok h₁
    exact agrees_readConjuncts (.and hleft hright) hs₁
  · rw [if_neg hand, if_neg (mt (h.peek_eq_iff rfl).mpr hand)]
    by_cases hop : s.peek.startsOperand
    · rw [if_pos hop, if_pos hop]
      by_cases himp : options.implicitAnd
      · rw [if_pos himp, if_pos himp]
        refine (agrees_readNegation h).bind ?_
        rintro ⟨right, s₁⟩ ⟨right', s₁'⟩ h₁ ⟨hright, hs₁⟩
        have hlt : s₁.rest.length < s.rest.length := property_of_bare_eq_ok h₁
        exact agrees_readConjuncts (.and hleft hright) hs₁
      · rw [if_neg himp, if_neg himp]
        exact h.agrees_fail (.missingOperator h.peek)
    · rw [if_neg hop, if_neg hop]
      exact .ok ⟨hleft, h⟩
termination_by (s.rest.length, 6)

theorem agrees_readNegation {s s' : Cursor} (h : s.Alike same s') :
    Agrees same (ReadAlike same) (readNegation query options s)
      (readNegation query' options s') := by
  rw [readNegation_eq query options s, readNegation_eq query' options s', ← h.nesting]
  by_cases hnot : s.peek = .not
  · rw [if_pos hnot, if_pos ((h.peek_eq_iff rfl).mp hnot)]
    have hend : s.peek ≠ .endOfQuery := by simp [hnot]
    by_cases hdeep : s.nesting + 1 > maxNesting
    · rw [if_pos hdeep, if_pos hdeep]
      exact (h.advance hend).agrees_fail (.tooDeep _)
    · rw [if_neg hdeep, if_neg hdeep]
      have hlt : s.enterNegation.rest.length < s.rest.length := Cursor.advance_lt hend
      refine (agrees_readNegation (h.enterNegation hend)).bind ?_
      rintro ⟨inner, s₁⟩ ⟨inner', s₁'⟩ - ⟨hinner, hs₁⟩
      exact .ok ⟨.not hinner, hs₁.leaveNegation⟩
  · rw [if_neg hnot, if_neg (mt (h.peek_eq_iff rfl).mpr hnot)]
    exact agrees_readPrimary h hnot
termination_by (s.rest.length, 3)

theorem agrees_readPrimary {s s' : Cursor} (h : s.Alike same s') (hnot : s.peek ≠ .not) :
    Agrees same (ReadAlike same) (readPrimary query options s)
      (readPrimary query' options s') := by
  cases hpeek : s.peek.startsOperand with
  | false =>
      rw [readPrimary_of_none query options hpeek,
        readPrimary_of_none query' options (h.peek.startsOperand_eq ▸ hpeek)]
      exact agrees_missingOperand h hpeek
  | true =>
      have hend : s.peek ≠ .endOfQuery := by
        intro hend
        rw [hend] at hpeek
        cases hpeek
      rcases Token.startsOperand_cases hpeek with ⟨text, htext⟩ | hgroup | hnot'
      · obtain ⟨text', htext', hsame⟩ := h.peek.exists_text htext
        rw [readPrimary_of_operand query options htext,
          readPrimary_of_operand query' options htext']
        exact .ok ⟨.term hsame, h.advance hend⟩
      · rw [readPrimary_of_openParen query options hgroup,
          readPrimary_of_openParen query' options ((h.peek_eq_iff rfl).mp hgroup), ← h.nesting]
        by_cases hdeep : s.nesting + 1 > maxNesting
        · rw [if_pos hdeep, if_pos hdeep]
          exact (h.advance hend).agrees_fail (.tooDeep _)
        · rw [if_neg hdeep, if_neg hdeep]
          have hlt : s.enterGroup.rest.length < s.rest.length := Cursor.advance_lt hend
          refine (agrees_readDisjunction (h.enterGroup hend)).bind ?_
          rintro ⟨inner, s₁⟩ ⟨inner', s₁'⟩ - ⟨hinner, hs₁⟩
          dsimp only at hs₁ ⊢
          by_cases hclose : s₁.peek = .closeParen
          · rw [if_pos hclose, if_pos ((hs₁.peek_eq_iff rfl).mp hclose)]
            exact .ok ⟨hinner, hs₁.leaveGroup (by simp [hclose])⟩
          · rw [if_neg hclose, if_neg (mt (hs₁.peek_eq_iff rfl).mpr hclose)]
            exact .error .unclosedOpen h.index
      · exact absurd hnot' hnot
termination_by (s.rest.length, 2)

end

/-- **The parser treats alike rows alike.** Where the tokens up to the end of the query are the same
but for the texts of words and phrases, and those are related, the parser returns trees of one shape
with related texts, or it fails at the same token and for the same cause. -/
theorem agrees_parseTokens {lexemes lexemes' : List Lexeme}
    (h : List.Forall₂ (Token.Alike same) (Cursor.start lexemes).ahead
      (Cursor.start lexemes').ahead) :
    Agrees same (Expr.Alike same) (parseTokens query lexemes options)
      (parseTokens query' lexemes' options) := by
  have hstart : (Cursor.start lexemes).Alike same (Cursor.start lexemes') :=
    ⟨h, rfl, .none, rfl, rfl⟩
  rw [parseTokens_eq, parseTokens_eq]
  by_cases hend : (Cursor.start lexemes).peek = .endOfQuery
  · rw [if_pos hend, if_pos (hstart.peek_eq_end_iff.mp hend)]
    exact .ok .matchAll
  · rw [if_neg hend, if_neg (mt hstart.peek_eq_end_iff.mpr hend)]
    refine (agrees_readDisjunction hstart).bind ?_
    rintro ⟨e, s⟩ ⟨e', s'⟩ - ⟨he, hs⟩
    dsimp only at he hs ⊢
    have hpeek := hs.peek
    generalize s.peek = t at hpeek
    generalize s'.peek = t' at hpeek
    -- what stands behind the disjunction decides, and it is of one kind in both rows
    cases hpeek with
    | endOfQuery => exact .ok he
    | closeParen => exact hs.agrees_fail .unmatchedClose
    | term ht => exact hs.agrees_fail (.unexpectedToken (.term ht))
    | phrase ht => exact hs.agrees_fail (.unexpectedToken (.phrase ht))
    | and => exact hs.agrees_fail (.unexpectedToken .and)
    | or => exact hs.agrees_fail (.unexpectedToken .or)
    | not => exact hs.agrees_fail (.unexpectedToken .not)
    | openParen => exact hs.agrees_fail (.unexpectedToken .openParen)

end

end LedgerSearch.Query
