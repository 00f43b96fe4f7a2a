import LedgerSearch.Proofs.Query.Expectation

/-!
# `LedgerSearch.Proofs.Query.ImplicitAnd`: what it means that `AND` may be left out

`ParseOptions.implicitAnd` lets two operands stand side by side. It should do nothing else.
`parseTokens_implicitAnd` says so from both ends.

Where operators have to be written, the parser may stop at a place where one is missing. If it does
not, it has done what it would have done anyway, and the results are the same down to the position
of an error. Both runs are one run, step by step, up to the first missing operator
(`SameUnlessMissing`), one lemma for each function of the parser.

Where operators may be left out, a row of tokens that is accepted is an abbreviation. `withAnds`
writes the operators out, one between any token that ends an operand and one behind it that starts
another. The longer row has the same tree. Here the runs are no longer at the same places, so the
proof does not follow the parser but the grammar: a derivation with neighbours becomes one with
operators between them (`Derives.withAnds`), and nothing is opened by it that was not open before
(`deepest_withAnds`).
-/

set_option autoImplicit false

namespace LedgerSearch.Query

/-! ### Results that differ by a missing operator only -/

/-- The parser stopped where an operator is missing. -/
def StopsAtMissingOperator {α : Type} (r : Except SyntaxError α) : Prop :=
  ∃ err found, r = .error err ∧ err.kind = .missingOperator found

/-- The results are the same, unless the first one is a missing operator. -/
def SameUnlessMissing {α : Type} (r r' : Except SyntaxError α) : Prop :=
  StopsAtMissingOperator r ∨ r = r'

/-- What follows the same result is the same, unless it stops at a missing operator. -/
theorem SameUnlessMissing.bind {α β : Type} {r r' : Except SyntaxError α}
    {f g : α → Except SyntaxError β} (h : SameUnlessMissing r r')
    (hfg : ∀ a, r = .ok a → SameUnlessMissing (f a) (g a)) :
    SameUnlessMissing (r >>= f) (r' >>= g) := by
  rcases h with ⟨err, found, rfl, hkind⟩ | rfl
  · exact .inl ⟨err, found, rfl, hkind⟩
  · cases r with
    | error err => exact .inr rfl
    | ok a => exact hfg a rfl

section
variable {query : String}

mutual

theorem sameUnlessMissing_readDisjunction (s : Cursor) :
    SameUnlessMissing (readDisjunction query ⟨false⟩ s) (readDisjunction query ⟨true⟩ s) := by
  rw [readDisjunction_eq, readDisjunction_eq]
  refine (sameUnlessMissing_readConjunction s).bind ?_
  rintro ⟨left, s₁⟩ h₁
  have hlt : s₁.rest.length < s.rest.length := property_of_bare_eq_ok h₁
  exact sameUnlessMissing_readDisjuncts left s₁
termination_by (s.rest.length, 5)

theorem sameUnlessMissing_readDisjuncts (left : Expr) (s : Cursor) :
    SameUnlessMissing (readDisjuncts query ⟨false⟩ left s) (readDisjuncts query ⟨true⟩ left s) := by
  rw [readDisjuncts_eq, readDisjuncts_eq]
  by_cases hor : s.peek = .or
  · rw [if_pos hor, if_pos hor]
    have hlt₀ := Cursor.advance_lt (s := s) (by simp [hor])
    refine (sameUnlessMissing_readConjunction s.advance).bind ?_
    rintro ⟨right, s₁⟩ h₁
    have hlt : s₁.rest.length < s.advance.rest.length := property_of_bare_eq_ok h₁
    exact sameUnlessMissing_readDisjuncts (.or left right) s₁
  · rw [if_neg hor, if_neg hor]
    exact .inr rfl
termination_by (s.rest.length, 6)

theorem sameUnlessMissing_readConjunction (s : Cursor) :
    SameUnlessMissing (readConjunction query ⟨false⟩ s) (readConjunction query ⟨true⟩ s) := by
  rw [readConjunction_eq, readConjunction_eq]
  refine (sameUnlessMissing_readNegation s).bind ?_
  rintro ⟨left, s₁⟩ h₁
  have hlt : s₁.rest.length < s.rest.length := property_of_bare_eq_ok h₁
  exact sameUnlessMissing_readConjuncts left s₁
termination_by (s.rest.length, 4)

/-- The only function that asks for the option, and only where the runs part. -/
theorem sameUnlessMissing_readConjuncts (left : Expr) (s : Cursor) :
    SameUnlessMissing (readConjuncts query ⟨false⟩ left s)
      (readConjuncts query ⟨true⟩ left s) := by
  rw [readConjuncts_eq, readConjuncts_eq]
  by_cases hand : s.peek = .and
  · rw [if_pos hand, if_pos hand]
    have hlt₀ := Cursor.advance_lt (s := s) (by simp [hand])
    refine (sameUnlessMissing_readNegation s.advance).bind ?_
    rintro ⟨right, s₁⟩ h₁
    have hlt : s₁.rest.length < s.advance.rest.length := property_of_bare_eq_ok h₁
    exact sameUnlessMissing_readConjuncts (.and left right) s₁
  · rw [if_neg hand, if_neg hand]
    by_cases hop : s.peek.startsOperand
    -- an operand without an operator in front of it
    · rw [if_pos hop, if_neg (by decide)]
      exact .inl ⟨_, _, rfl, rfl⟩
    · rw [if_neg hop, if_neg hop]
      exact .inr rfl
termination_by (s.rest.length, 6)

theorem sameUnlessMissing_readNegation (s : Cursor) :
    SameUnlessMissing (readNegation query ⟨false⟩ s) (readNegation query ⟨true⟩ s) := by
  rw [readNegation_eq query ⟨false⟩, readNegation_eq query ⟨true⟩]
  by_cases hnot : s.peek = .not
  · rw [if_pos hnot, if_pos hnot]
    by_cases hdeep : s.nesting + 1 > maxNesting
    · rw [if_pos hdeep, if_pos hdeep]
      exact .inr rfl
    · rw [if_neg hdeep, if_neg hdeep]
      have hlt : s.enterNegation.rest.length < s.rest.length :=
        Cursor.advance_lt (s := s) (by simp [hnot])
      exact (sameUnlessMissing_readNegation s.enterNegation).bind fun _ _ => .inr rfl
  · rw [if_neg hnot, if_neg hnot]
    exact sameUnlessMissing_readPrimary s hnot
termination_by (s.rest.length, 3)

theorem sameUnlessMissing_readPrimary (s : Cursor) (hnot : s.peek ≠ .not) :
    SameUnlessMissing (readPrimary query ⟨false⟩ s) (readPrimary query ⟨true⟩ s) := by
  by_cases hop : s.peek.startsOperand
  · rcases Token.startsOperand_cases hop with ⟨text, htext⟩ | hgroup | hnot'
    · rw [readPrimary_of_operand query ⟨false⟩ htext, readPrimary_of_operand query ⟨true⟩ htext]
      exact .inr rfl
    · rw [readPrimary_of_openParen query ⟨false⟩ hgroup,
        readPrimary_of_openParen query ⟨true⟩ hgroup]
      by_cases hdeep : s.nesting + 1 > maxNesting
      · rw [if_pos hdeep, if_pos hdeep]
        exact .inr rfl
      · rw [if_neg hdeep, if_neg hdeep]
        have hlt : s.enterGroup.rest.length < s.rest.length :=
          Cursor.advance_lt (s := s) (by simp [hgroup])
        exact (sameUnlessMissing_readDisjunction s.enterGroup).bind fun _ _ => .inr rfl
    · exact absurd hnot' hnot
  · have hop : s.peek.startsOperand = false := Bool.not_eq_true _ ▸ hop
    rw [readPrimary_of_none query ⟨false⟩ hop, readPrimary_of_none query ⟨true⟩ hop]
    exact .inr rfl
termination_by (s.rest.length, 2)

end

theorem sameUnlessMissing_parseTokens (lexemes : List Lexeme) :
    SameUnlessMissing (parseTokens query lexemes ⟨false⟩) (parseTokens query lexemes ⟨true⟩) := by
  rw [parseTokens_eq, parseTokens_eq]
  by_cases hend : (Cursor.start lexemes).peek = .endOfQuery
  · rw [if_pos hend, if_pos hend]
    exact .inr rfl
  · rw [if_neg hend, if_neg hend]
    exact (sameUnlessMissing_readDisjunction _).bind fun _ _ => .inr rfl

end

/-! ### Writing the operators out -/

/-- The tokens with an `AND` wherever an operand ends and the next token starts one. -/
def withAnds : List Token → List Token
  | t :: u :: ts =>
    if t.endsOperand && u.startsOperand then t :: .and :: withAnds (u :: ts)
    else t :: withAnds (u :: ts)
  | ts => ts

section
variable {t : Token} {ts us : List Token}

theorem withAnds_cons_cons {u : Token} :
    withAnds (t :: u :: ts)
      = if t.endsOperand && u.startsOperand then t :: .and :: withAnds (u :: ts)
        else t :: withAnds (u :: ts) :=
  rfl

/-- Behind a token that ends no operand nothing is put in. -/
theorem withAnds_cons_of_not_ends (ht : t.endsOperand = false) :
    withAnds (t :: ts) = t :: withAnds ts := by
  cases ts with
  | nil => rfl
  | cons u ts => rw [withAnds_cons_cons, ht, Bool.false_and, if_neg (by decide)]

/-- What is put in between two rows is decided by the tokens that meet there. -/
theorem withAnds_append {last first : Token} (ts us : List Token) :
    withAnds (ts ++ last :: first :: us)
      = withAnds (ts ++ [last])
        ++ (if last.endsOperand && first.startsOperand then [Token.and] else [])
        ++ withAnds (first :: us) := by
  induction ts with
  | nil =>
      rw [List.nil_append, withAnds_cons_cons]
      split_ifs <;> rfl
  | cons t ts ih =>
      -- the token behind `t` is the same in the longer row and in the first part alone
      have hhead : ∃ u vs ws, ts ++ last :: first :: us = u :: vs ∧ ts ++ [last] = u :: ws := by
        cases ts with
        | nil => exact ⟨last, _, _, rfl, rfl⟩
        | cons u ts => exact ⟨u, _, _, rfl, rfl⟩
      obtain ⟨u, vs, ws, hvs, hws⟩ := hhead
      rw [hvs, hws] at ih
      rw [List.cons_append, List.cons_append, hvs, hws, withAnds_cons_cons, withAnds_cons_cons, ih]
      by_cases hgap : (t.endsOperand && u.startsOperand) = true
      · rw [if_pos hgap, if_pos hgap]
        simp
      · rw [if_neg hgap, if_neg hgap]
        simp

/-- In front of a token that starts no operand nothing is put in. -/
theorem withAnds_append_of_not_starts (ht : t.startsOperand = false) (ts us : List Token) :
    withAnds (ts ++ t :: us) = withAnds ts ++ withAnds (t :: us) := by
  rcases List.eq_nil_or_concat ts with rfl | ⟨front, last, rfl⟩
  · rfl
  · rw [List.concat_eq_append, List.append_assoc, List.singleton_append, withAnds_append, ht,
      Bool.and_false, if_neg (by decide), List.append_nil]

end

/-! ### Derivations with the operators written out -/

section
variable {implicitAnd : Bool} {rule : Rule} {ts us : List Token} {e : Expr}

/-- An `AND` is put between two sentences. -/
theorem Derives.withAnds_append_sentence {rule' : Rule} {e' : Expr}
    (h : Derives implicitAnd rule ts e) (h' : Derives implicitAnd rule' us e') :
    withAnds (ts ++ us) = withAnds ts ++ .and :: withAnds us := by
  obtain ⟨front, last, rfl, hlast⟩ := h.last_endsOperand
  obtain ⟨first, us, rfl, hfirst⟩ := h'.head_startsOperand
  rw [List.append_assoc, List.singleton_append, withAnds_append, hlast, hfirst, Bool.and_true,
    if_pos rfl, List.append_assoc, List.singleton_append]

/-- **With the operators written out a sentence needs no neighbours**, and its tree stays the
same. -/
theorem Derives.withAnds (h : Derives implicitAnd rule ts e) :
    Derives false rule (withAnds ts) e := by
  induction h with
  | term text => exact .term text
  | phrase text => exact .phrase text
  | @group ts e inner ih =>
      rw [withAnds_cons_of_not_ends rfl, withAnds_append_of_not_starts rfl]
      exact .group ih
  | primary _ ih => exact .primary ih
  | not _ ih =>
      rw [withAnds_cons_of_not_ends rfl]
      exact .not ih
  | negation _ ih => exact .negation ih
  | and left right ihl ihr =>
      rw [withAnds_append_of_not_starts rfl, withAnds_cons_of_not_ends rfl]
      exact .and ihl ihr
  | adjacent _ left right ihl ihr =>
      -- the only case in which an operator is put in
      rw [left.withAnds_append_sentence right]
      exact .and ihl ihr
  | conjunction _ ih => exact .conjunction ih
  | or left right ihl ihr =>
      rw [withAnds_append_of_not_starts rfl, withAnds_cons_of_not_ends rfl]
      exact .or ihl ihr

end

/-- An operator opens nothing, so the row goes as deep as before. -/
theorem deepest_withAnds (stack : List Opener) (ts : List Token) :
    deepest stack (withAnds ts) = deepest stack ts := by
  induction ts generalizing stack with
  | nil => rfl
  | cons t ts ih =>
      cases ts with
      | nil => rfl
      | cons u ts =>
          have hand : deepest (openersStep stack t) (.and :: withAnds (u :: ts))
              = deepest (openersStep stack t) (withAnds (u :: ts)) :=
            Nat.max_eq_right (length_le_deepest _ _)
          rw [withAnds_cons_cons]
          split_ifs
          · rw [deepest_cons, hand, ih]
            rfl
          · rw [deepest_cons, ih]
            rfl

/-- The end of the query neither ends an operand nor starts one, so the operators in front of it do
not depend on what stands behind it. -/
theorem takeWhile_withAnds (ts : List Token) :
    (withAnds ts).takeWhile (· ≠ .endOfQuery) = withAnds (ts.takeWhile (· ≠ .endOfQuery)) := by
  have hgo : ∀ {t : Token} {ts : List Token}, t ≠ .endOfQuery →
      (t :: ts).takeWhile (· ≠ .endOfQuery) = t :: ts.takeWhile (· ≠ .endOfQuery) := by
    intro t ts ht
    rw [List.takeWhile_cons, if_pos (decide_eq_true ht)]
  have hstop : ∀ {ts : List Token}, (.endOfQuery :: ts).takeWhile (· ≠ .endOfQuery) = [] := by
    intro ts
    rw [List.takeWhile_cons, if_neg (by decide)]
  induction ts with
  | nil => rfl
  | cons t ts ih =>
      by_cases ht : t = .endOfQuery
      · rw [ht, withAnds_cons_of_not_ends rfl, hstop, hstop]
        rfl
      · cases ts with
        | nil =>
            rw [hgo ht]
            exact hgo ht
        | cons u ts =>
            by_cases hu : u = .endOfQuery
            · rw [hu, hstop] at ih
              rw [hu, withAnds_cons_cons, show Token.startsOperand .endOfQuery = false from rfl,
                Bool.and_false, if_neg (by decide), hgo ht, hgo ht, hstop, ih]
              rfl
            · rw [hgo hu] at ih
              rw [hgo ht, hgo hu, withAnds_cons_cons, withAnds_cons_cons]
              split_ifs
              · rw [hgo ht, hgo Token.noConfusion, ih]
              · rw [hgo ht, ih]

/-! ### The parser with and without the option -/

/-- **Leaving `AND` out is all that the option allows.** Where the parser asks for operators and
does not stop at a missing one, it returns what it returns without asking, be it a tree or an error.
And where it accepts a row of tokens without asking, it accepts the row with the operators written
out when it asks, with the same tree, wherever the new tokens are said to begin. -/
theorem parseTokens_implicitAnd (query : String) (lexemes : List Lexeme) :
    (¬ StopsAtMissingOperator (parseTokens query lexemes ⟨false⟩) →
      parseTokens query lexemes ⟨false⟩ = parseTokens query lexemes ⟨true⟩) ∧
    ∀ e lexemes', parseTokens query lexemes ⟨true⟩ = .ok e →
      lexemes'.map (·.token) = withAnds (lexemes.map (·.token)) →
      parseTokens query lexemes' ⟨false⟩ = .ok e := by
  constructor
  · intro hstops
    exact (sameUnlessMissing_parseTokens lexemes).resolve_left hstops
  · intro e lexemes' h hl
    have hahead : (Cursor.start lexemes').ahead = withAnds (Cursor.start lexemes).ahead := by
      show (lexemes'.map (·.token)).takeWhile (· ≠ .endOfQuery) = _
      rw [hl, takeWhile_withAnds]
      rfl
    rw [parseTokens_eq_ok_iff, hahead]
    rcases parseTokens_eq_ok_iff.mp h with ⟨hempty, rfl⟩ | ⟨hder, hn⟩
    · exact .inl ⟨by rw [hempty]; rfl, rfl⟩
    · refine .inr ⟨hder.withAnds, nestsWithin_iff.mpr ?_⟩
      rw [nestingOf, deepest_withAnds]
      exact nestsWithin_iff.mp hn

/-- Two rows. In `a AND (b` the parenthesis is not closed, with the option or without. In
`a NOT (b "c") d` three operators are left out, one of them inside the group; the new tokens are
said to begin far outside of the query. -/
theorem parseTokens_implicitAnd_left_out :
    let unclosed : List Lexeme :=
      [⟨.term "a", 0⟩, ⟨.and, 2⟩, ⟨.openParen, 6⟩, ⟨.term "b", 7⟩, ⟨.endOfQuery, 8⟩]
    let short : List Lexeme :=
      [⟨.term "a", 0⟩, ⟨.not, 2⟩, ⟨.openParen, 6⟩, ⟨.term "b", 7⟩, ⟨.phrase "c", 9⟩,
        ⟨.closeParen, 12⟩, ⟨.term "d", 14⟩, ⟨.endOfQuery, 15⟩]
    let long : List Lexeme :=
      [⟨.term "a", 0⟩, ⟨.and, 99⟩, ⟨.not, 2⟩, ⟨.openParen, 6⟩, ⟨.term "b", 7⟩, ⟨.and, 99⟩,
        ⟨.phrase "c", 9⟩, ⟨.closeParen, 12⟩, ⟨.and, 99⟩, ⟨.term "d", 14⟩, ⟨.endOfQuery, 15⟩]
    let e : Expr :=
      .and (.and (.term "a") (.not (.and (.term "b") (.term "c")))) (.term "d")
    parseTokens "a AND (b" unclosed ⟨false⟩ = .error ⟨.unclosedOpen, "a AND (b", 2, 6⟩ ∧
      parseTokens "a AND (b" unclosed ⟨false⟩ = parseTokens "a AND (b" unclosed ⟨true⟩ ∧
      parseTokens "a NOT (b \"c\") d" short ⟨true⟩ = .ok e ∧
      long.map (·.token) = withAnds (short.map (·.token)) ∧
      parseTokens "a NOT (b \"c\") d" long ⟨false⟩ = .ok e := by
  intro unclosed short long e
  have herror : parseTokens "a AND (b" unclosed ⟨false⟩
      = .error ⟨.unclosedOpen, "a AND (b", 2, 6⟩ := by cbv
  have hstops : ¬ StopsAtMissingOperator (parseTokens "a AND (b" unclosed ⟨false⟩) := by
    rintro ⟨err, found, h, hkind⟩
    rw [herror] at h
    cases h
    cases hkind
  have hok : parseTokens "a NOT (b \"c\") d" short ⟨true⟩ = .ok e := by cbv
  have hl : long.map (·.token) = withAnds (short.map (·.token)) := by decide
  exact ⟨herror, (parseTokens_implicitAnd _ unclosed).1 hstops, hok, hl,
    (parseTokens_implicitAnd _ short).2 e long hok hl⟩

end LedgerSearch.Query
