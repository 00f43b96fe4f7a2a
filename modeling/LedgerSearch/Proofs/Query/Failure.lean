import LedgerSearch.Proofs.Query.Expectation

/-!
# `LedgerSearch.Proofs.Query.Failure`: at which place the parser fails, and on what grounds

The parser raises its errors from several functions, which trust one another to have left the right
token ahead and count what is open in two numbers. What an error says of the query is therefore not
to be read off the function that raises it. This module compares the parser with `Expectation.run`,
which reads the same tokens without building a tree, and knows at every place whether an operand has
to come and what is open.

`failsAt_of_parseTokens` is the principal theorem. Wherever the parser fails, the run comes to the
place that the error names, and there the error has its grounds in what is expected and in what
comes next (`Expectation.Raises`). It goes along the recursion of the parser, one lemma for each of
its functions. The invariant is that the counters are those of the stack (`Expectation.IsAt`).

What an error means for the query as a whole follows from this in `LedgerSearch.Proofs.Query.Faults`
and `LedgerSearch.Proofs.Query.ErrorKind`.
-/

set_option autoImplicit false

namespace LedgerSearch.Query

/-! ### Where a chain ends -/

section
variable {query : String} {options : ParseOptions}

/-- A conjunction is read as far as it goes. -/
theorem endsConjunction_of_readConjuncts {s s' : Cursor} {left e : Expr}
    (h : readConjuncts query options left s = .ok (e, s')) : EndsConjunction s'.peek := by
  rw [readConjuncts_eq] at h
  by_cases hand : s.peek = .and
  · rw [if_pos hand] at h
    obtain ⟨⟨right, s₁⟩, h₁, h₂⟩ := bind_eq_ok h
    have hlt₀ := Cursor.advance_lt (s := s) (by simp [hand])
    have hlt : s₁.rest.length < s.advance.rest.length := property_of_bare_eq_ok h₁
    exact endsConjunction_of_readConjuncts h₂
  · rw [if_neg hand] at h
    by_cases hop : s.peek.startsOperand
    · rw [if_pos hop] at h
      by_cases himp : options.implicitAnd
      · rw [if_pos himp] at h
        obtain ⟨⟨right, s₁⟩, h₁, h₂⟩ := bind_eq_ok h
        have hlt : s₁.rest.length < s.rest.length := property_of_bare_eq_ok h₁
        exact endsConjunction_of_readConjuncts h₂
      · rw [if_neg himp] at h
        cases h
    · rw [if_neg hop] at h
      cases h
      exact ⟨hand, Bool.not_eq_true _ ▸ hop⟩
termination_by s.rest.length

theorem endsConjunction_of_readConjunction {s s' : Cursor} {e : Expr}
    (h : readConjunction query options s = .ok (e, s')) : EndsConjunction s'.peek := by
  rw [readConjunction_eq] at h
  obtain ⟨⟨left, s₁⟩, -, h₂⟩ := bind_eq_ok h
  exact endsConjunction_of_readConjuncts h₂

theorem endsDisjunction_of_readDisjuncts {s s' : Cursor} {left e : Expr}
    (hs : EndsConjunction s.peek) (h : readDisjuncts query options left s = .ok (e, s')) :
    EndsConjunction s'.peek ∧ s'.peek ≠ .or := by
  rw [readDisjuncts_eq] at h
  by_cases hor : s.peek = .or
  · rw [if_pos hor] at h
    obtain ⟨⟨right, s₁⟩, h₁, h₂⟩ := bind_eq_ok h
    have hlt₀ := Cursor.advance_lt (s := s) (by simp [hor])
    have hlt : s₁.rest.length < s.advance.rest.length := property_of_bare_eq_ok h₁
    exact endsDisjunction_of_readDisjuncts (endsConjunction_of_readConjunction h₁) h₂
  · rw [if_neg hor] at h
    cases h
    exact ⟨hs, hor⟩
termination_by s.rest.length

/-- Behind a disjunction comes what closes it: a parenthesis or the end of the query. -/
theorem peek_of_readDisjunction {s s' : Cursor} {e : Expr}
    (h : readDisjunction query options s = .ok (e, s')) :
    s'.peek = .closeParen ∨ s'.peek = .endOfQuery := by
  rw [readDisjunction_eq] at h
  obtain ⟨⟨left, s₁⟩, h₁, h₂⟩ := bind_eq_ok h
  obtain ⟨⟨hand, hop⟩, hor⟩ :=
    endsDisjunction_of_readDisjuncts (endsConjunction_of_readConjunction h₁) h₂
  cases hpeek : s'.peek with
  | closeParen => exact .inl rfl
  | endOfQuery => exact .inr rfl
  | and => exact absurd hpeek hand
  | or => exact absurd hpeek hor
  | term | phrase | not | openParen =>
      rw [hpeek] at hop
      cases hop

end

/-! ### Places further on -/

/-- Taking the tokens leads from the first place to the second, whatever is counted as open there. -/
structure Cursor.LeadsTo (s : Cursor) (ts : List Token) (s' : Cursor) : Prop where
  ahead_eq : s.ahead = ts ++ s'.ahead
  index_eq : s'.index = s.index + ts.length
  last_eq : s'.last = ts.getLast?.or s.last

namespace Cursor

variable {s s₁ s' : Cursor} {ts us : List Token}

theorem LeadsTo.refl (s : Cursor) : s.LeadsTo [] s :=
  ⟨rfl, rfl, rfl⟩

theorem LeadsTo.trans (h : s.LeadsTo ts s₁) (h' : s₁.LeadsTo us s') : s.LeadsTo (ts ++ us) s' where
  ahead_eq := by rw [h.ahead_eq, h'.ahead_eq, List.append_assoc]
  index_eq := by rw [h'.index_eq, h.index_eq, List.length_append, Nat.add_assoc]
  last_eq := by rw [h'.last_eq, h.last_eq, List.getLast?_append, Option.or_assoc]

theorem LeadsTo.withOpen (h : s.LeadsTo ts s') (groups nesting : Nat) :
    s.LeadsTo ts (s'.withOpen groups nesting) :=
  ⟨h.ahead_eq, h.index_eq, h.last_eq⟩

theorem Reads.leadsTo (h : s.Reads ts s') (hts : .endOfQuery ∉ ts) : s.LeadsTo ts s' :=
  ⟨h.ahead_eq hts, h.index_eq, h.last_eq⟩

theorem leadsTo_advance {t : Token} (hs : s.peek = t) (ht : t ≠ .endOfQuery) :
    s.LeadsTo [t] s.advance := by
  subst hs
  exact (reads_peek ht).leadsTo (by simpa using ht.symm)

theorem leadsTo_enterNegation (hs : s.peek = .not) : s.LeadsTo [.not] s.enterNegation :=
  (leadsTo_advance hs Token.noConfusion).withOpen _ _

theorem leadsTo_enterGroup (hs : s.peek = .openParen) : s.LeadsTo [.openParen] s.enterGroup :=
  (leadsTo_advance hs Token.noConfusion).withOpen _ _

end Cursor

/-! ### Grounds for an error -/

/-- The error is what the parser says at the place `s`, where `x` is expected, and it has grounds to
say so. -/
inductive Expectation.Raises (query : String) (implicitAnd : Bool) (x : Expectation) (s : Cursor) :
    SyntaxError → Prop
  /-- An operand has to come, and the next token starts none. -/
  | missingOperand (hx : x.operand = true) (hgroups : x.stack.count .group = s.groups)
      (hs : s.peek.startsOperand = false) :
      Raises query implicitAnd x s (missingOperand query s)
  /-- An operand has ended, and the next one follows where adjacency does not join the two. -/
  | missingOperator (hx : x.operand = false) (himp : implicitAnd = false)
      (hs : s.peek.startsOperand = true) :
      Raises query implicitAnd x s (s.fail query (.missingOperator s.peek.describe))
  /-- An operand has ended with nothing open, and a closing parenthesis follows. -/
  | unmatchedClose (hx : x.operand = false) (hstack : x.stack = []) (hs : s.peek = .closeParen) :
      Raises query implicitAnd x s (s.fail query .unmatchedClose)
  /-- An operand may come, and the next token opens one too many. -/
  | tooDeep (hx : (x.operand || implicitAnd) = true) (hstack : x.stack.length = maxNesting)
      (hs : s.peek = .not ∨ s.peek = .openParen) :
      Raises query implicitAnd x s (s.advance.fail query (.tooDeep maxNesting))
  /-- An operand may come, and the rest of the query is a parenthesis and a sentence. -/
  | unclosedOpen {ts : List Token} {e : Expr} (hx : (x.operand || implicitAnd) = true)
      (hs : s.ahead = .openParen :: ts) (inner : Derives implicitAnd .disjunction ts e)
      (hn : x.stack.length + 1 + nestingOf ts ≤ maxNesting) :
      Raises query implicitAnd x s ⟨.unclosedOpen, query, s.index, s.offset query⟩

/-- From `s` on, where `x` is expected, the tokens can be followed up to a place at which the error
has its grounds. -/
def FailsAt (query : String) (implicitAnd : Bool) (x : Expectation) (s : Cursor)
    (err : SyntaxError) : Prop :=
  ∃ ts y s₁, s.LeadsTo ts s₁ ∧ x.run implicitAnd ts = some y ∧ y.Raises query implicitAnd s₁ err

section
variable {query : String} {implicitAnd : Bool} {x y : Expectation} {s s₁ : Cursor}
  {err : SyntaxError}

/-- An error at the place itself. -/
theorem Expectation.Raises.failsAt (h : x.Raises query implicitAnd s err) :
    FailsAt query implicitAnd x s err :=
  ⟨[], x, s, .refl s, rfl, h⟩

/-- An error further on, behind tokens that may come. -/
theorem FailsAt.of_leadsTo {ts : List Token} (hleads : s.LeadsTo ts s₁)
    (hrun : x.run implicitAnd ts = some y) (h : FailsAt query implicitAnd y s₁ err) :
    FailsAt query implicitAnd x s err := by
  obtain ⟨us, z, s₂, hleads', hz, hraises⟩ := h
  refine ⟨ts ++ us, z, s₂, hleads.trans hleads', ?_, hraises⟩
  rw [Expectation.run_append, hrun]
  exact hz

/-- An error behind a token that may come. -/
theorem FailsAt.of_allows {t : Token} (hleads : s.LeadsTo [t] s₁)
    (hx : x.allows implicitAnd t = true) (h : FailsAt query implicitAnd (x.after t) s₁ err) :
    FailsAt query implicitAnd x s err :=
  h.of_leadsTo hleads (Expectation.run_cons_of_allows hx)

/-- An error behind a sentence. -/
theorem FailsAt.of_parses {rule : Rule} {e : Expr} (hparse : Parses implicitAnd rule s e s₁)
    (hs : rule.StartsOn x.stack) (hx : (x.operand || implicitAnd) = true)
    (hn : x.stack.length = s.nesting) (h : FailsAt query implicitAnd x.fulfilled s₁ err) :
    FailsAt query implicitAnd x s err := by
  obtain ⟨ts, hreads, hts, hdeep⟩ := hparse
  exact h.of_leadsTo (hreads.leadsTo hts.endOfQuery_notMem)
    (hts.run_eq hs hx (by rw [hn]; exact hdeep))

end

/-! ### The counters of the parser

One counter is the height of the stack, the other one the number of groups in it, except inside a
negation whose operand is complete, and there the parser asks for nothing more. -/

/-- Settling ends negations only. -/
theorem count_group_settle (stack : List Opener) :
    (settle stack).count .group = stack.count .group := by
  fun_induction settle stack with
  | case1 stack ih => rw [ih, List.count_cons_of_ne (by decide)]
  | case2 stack _ => rfl

/-- The parser counts what is open and is within its limit. -/
structure Expectation.IsAt (x : Expectation) (s : Cursor) : Prop where
  length_eq : x.stack.length = s.nesting
  groups_eq : x.stack.count .group = s.groups
  within : s.nesting ≤ maxNesting

section
variable {query : String} {options : ParseOptions} {x : Expectation} {s s₁ : Cursor}

/-- Behind a sentence. -/
theorem Expectation.IsAt.fulfilled {implicitAnd : Bool} {rule : Rule} {e : Expr} (h : x.IsAt s)
    (hs : settle x.stack = x.stack) (hparse : Parses implicitAnd rule s e s₁) :
    x.fulfilled.IsAt s₁ where
  length_eq := by rw [hparse.nesting_eq, ← h.length_eq]; exact congrArg List.length hs
  groups_eq := by rw [hparse.groups_eq, ← h.groups_eq]; exact count_group_settle x.stack
  within := hparse.nesting_eq ▸ h.within

/-- Behind a binary operator. -/
theorem Expectation.IsAt.advance {t : Token} (h : x.IsAt s)
    (ht : ∀ stack, openersStep stack t = stack) : (x.after t).IsAt s.advance where
  length_eq := by rw [Cursor.nesting_advance, ← h.length_eq]; exact congrArg List.length (ht _)
  groups_eq := by rw [Cursor.groups_advance, ← h.groups_eq]; exact congrArg _ (ht _)
  within := by rw [Cursor.nesting_advance]; exact h.within

/-- Inside a negation. -/
theorem Expectation.IsAt.enterNegation (h : x.IsAt s) (hn : ¬ s.nesting + 1 > maxNesting) :
    (x.after .not).IsAt s.enterNegation where
  length_eq := congrArg (· + 1) h.length_eq
  groups_eq := (List.count_cons_of_ne (by decide)).trans h.groups_eq
  within := Nat.le_of_not_gt hn

/-- Inside a group. -/
theorem Expectation.IsAt.enterGroup (h : x.IsAt s) (hn : ¬ s.nesting + 1 > maxNesting) :
    (x.after .openParen).IsAt s.enterGroup where
  length_eq := congrArg (· + 1) h.length_eq
  groups_eq := List.count_cons_self.trans (congrArg (· + 1) h.groups_eq)
  within := Nat.le_of_not_gt hn

/-- A negation or a group may be opened within the limit. -/
theorem Expectation.IsAt.allows_opener {implicitAnd : Bool} {t : Token} (h : x.IsAt s)
    (hx : (x.operand || implicitAnd) = true) (ht : t = .not ∨ t = .openParen)
    (hn : ¬ s.nesting + 1 > maxNesting) : x.allows implicitAnd t = true :=
  Expectation.allows_opener ht hx (by rw [h.length_eq]; omega)

/-- At the limit one more is one too many. -/
theorem Expectation.IsAt.raises_tooDeep {implicitAnd : Bool} (h : x.IsAt s)
    (hx : (x.operand || implicitAnd) = true) (hs : s.peek = .not ∨ s.peek = .openParen)
    (hn : s.nesting + 1 > maxNesting) :
    x.Raises query implicitAnd s (s.advance.fail query (.tooDeep maxNesting)) :=
  .tooDeep hx (by have := h.within; rw [h.length_eq]; omega) hs

end

/-! ### The functions of the parser

The induction goes along the recursion of the parser, so the measures are the parser's own: the tokens
still to be read and then the depth of the rule. Each function is entered with an operand expected, or
with one that adjacency joins to what stands before it. Where a part of a rule was read, the error
lies behind a sentence (`FailsAt.of_parses`), and where a token was taken, behind that token
(`FailsAt.of_allows`). -/

section
variable {query : String} {options : ParseOptions}

mutual

/-- Where a disjunction cannot be read, the error has its grounds. -/
theorem failsAt_of_readDisjunction {s : Cursor} {x : Expectation} {err : SyntaxError}
    (hx : x.operand = true) (hs : settle x.stack = x.stack) (hat : x.IsAt s)
    (h : readDisjunction query options s = .error err) :
    FailsAt query options.implicitAnd x s err := by
  rw [readDisjunction_eq] at h
  rcases bind_eq_error h with h₁ | ⟨⟨left, s₁⟩, h₁, h₂⟩
  · exact failsAt_of_readConjunction hx hs hat h₁
  · have hlt : s₁.rest.length < s.rest.length := property_of_bare_eq_ok h₁
    have hleft := parses_of_readConjunction hat.within h₁
    exact (failsAt_of_readDisjuncts rfl (hat.fulfilled hs hleft) h₂).of_parses hleft hs
      (by rw [hx]; rfl) hat.length_eq
termination_by (s.rest.length, 5)

/-- The same for what follows the first operands of a disjunction. -/
theorem failsAt_of_readDisjuncts {s : Cursor} {x : Expectation} {left : Expr} {err : SyntaxError}
    (hx : x.operand = false) (hat : x.IsAt s)
    (h : readDisjuncts query options left s = .error err) :
    FailsAt query options.implicitAnd x s err := by
  rw [readDisjuncts_eq] at h
  by_cases hor : s.peek = .or
  · rw [if_pos hor] at h
    have hlt₀ := Cursor.advance_lt (s := s) (by simp [hor])
    have hs := x.settled hx
    have hat₁ : (x.after .or).IsAt s.advance := hat.advance fun _ => rfl
    refine FailsAt.of_allows (Cursor.leadsTo_advance hor Token.noConfusion)
      (by simp [Expectation.allows, hx]) ?_
    rcases bind_eq_error h with h₁ | ⟨⟨right, s₁⟩, h₁, h₂⟩
    · exact failsAt_of_readConjunction rfl hs hat₁ h₁
    · have hlt : s₁.rest.length < s.advance.rest.length := property_of_bare_eq_ok h₁
      have hright := parses_of_readConjunction hat₁.within h₁
      exact (failsAt_of_readDisjuncts rfl (hat₁.fulfilled hs hright) h₂).of_parses hright hs rfl
        hat₁.length_eq
  · rw [if_neg hor] at h
    cases h
termination_by (s.rest.length, 6)

/-- Where a conjunction cannot be read, the error has its grounds. -/
theorem failsAt_of_readConjunction {s : Cursor} {x : Expectation} {err : SyntaxError}
    (hx : x.operand = true) (hs : settle x.stack = x.stack) (hat : x.IsAt s)
    (h : readConjunction query options s = .error err) :
    FailsAt query options.implicitAnd x s err := by
  rw [readConjunction_eq] at h
  rcases bind_eq_error h with h₁ | ⟨⟨left, s₁⟩, h₁, h₂⟩
  · exact failsAt_of_readNegation (.inl hx) hat h₁
  · have hlt : s₁.rest.length < s.rest.length := property_of_bare_eq_ok h₁
    have hleft := parses_of_readNegation hat.within h₁
    exact (failsAt_of_readConjuncts rfl (hat.fulfilled hs hleft) h₂).of_parses hleft trivial
      (by rw [hx]; rfl) hat.length_eq
termination_by (s.rest.length, 4)

/-- The same for what follows the first operands of a conjunction. Two operands side by side are
refused where adjacency does not join them. -/
theorem failsAt_of_readConjuncts {s : Cursor} {x : Expectation} {left : Expr} {err : SyntaxError}
    (hx : x.operand = false) (hat : x.IsAt s)
    (h : readConjuncts query options left s = .error err) :
    FailsAt query options.implicitAnd x s err := by
  rw [readConjuncts_eq] at h
  have hs := x.settled hx
  by_cases hand : s.peek = .and
  · rw [if_pos hand] at h
    have hlt₀ := Cursor.advance_lt (s := s) (by simp [hand])
    have hat₁ : (x.after .and).IsAt s.advance := hat.advance fun _ => rfl
    refine FailsAt.of_allows (Cursor.leadsTo_advance hand Token.noConfusion)
      (by simp [Expectation.allows, hx]) ?_
    rcases bind_eq_error h with h₁ | ⟨⟨right, s₁⟩, h₁, h₂⟩
    · exact failsAt_of_readNegation (.inl rfl) hat₁ h₁
    · have hlt : s₁.rest.length < s.advance.rest.length := property_of_bare_eq_ok h₁
      have hright := parses_of_readNegation hat₁.within h₁
      exact (failsAt_of_readConjuncts rfl (hat₁.fulfilled hs hright) h₂).of_parses hright trivial
        rfl hat₁.length_eq
  · rw [if_neg hand] at h
    by_cases hop : s.peek.startsOperand
    · rw [if_pos hop] at h
      by_cases himp : options.implicitAnd
      · rw [if_pos himp] at h
        rcases bind_eq_error h with h₁ | ⟨⟨right, s₁⟩, h₁, h₂⟩
        · exact failsAt_of_readNegation (.inr ⟨himp, hop⟩) hat h₁
        · have hlt : s₁.rest.length < s.rest.length := property_of_bare_eq_ok h₁
          have hright := parses_of_readNegation hat.within h₁
          exact (failsAt_of_readConjuncts rfl (hat.fulfilled hs hright) h₂).of_parses hright
            trivial (by rw [himp, Bool.or_true]) hat.length_eq
      · rw [if_neg himp] at h
        cases h
        exact (Expectation.Raises.missingOperator hx (Bool.not_eq_true _ ▸ himp) hop).failsAt
    · rw [if_neg hop] at h
      cases h
termination_by (s.rest.length, 6)

/-- Where a negation cannot be read, the error has its grounds. The operand may be one that
adjacency joins to another. -/
theorem failsAt_of_readNegation {s : Cursor} {x : Expectation} {err : SyntaxError}
    (hx : x.operand = true ∨ options.implicitAnd = true ∧ s.peek.startsOperand = true)
    (hat : x.IsAt s) (h : readNegation query options s = .error err) :
    FailsAt query options.implicitAnd x s err := by
  have hx' : (x.operand || options.implicitAnd) = true := by
    rcases hx with hx | ⟨himp, -⟩ <;> simp [*]
  rw [readNegation_eq] at h
  by_cases hnot : s.peek = .not
  · rw [if_pos hnot] at h
    by_cases hdeep : s.nesting + 1 > maxNesting
    · rw [if_pos hdeep] at h
      cases h
      exact (hat.raises_tooDeep hx' (.inl hnot) hdeep).failsAt
    · rw [if_neg hdeep] at h
      have hlt : s.enterNegation.rest.length < s.rest.length :=
        Cursor.advance_lt (s := s) (by simp [hnot])
      refine FailsAt.of_allows (Cursor.leadsTo_enterNegation hnot)
        (hat.allows_opener hx' (.inl rfl) hdeep) ?_
      rcases bind_eq_error h with h₁ | ⟨p, -, h₂⟩
      · exact failsAt_of_readNegation (.inl rfl) (hat.enterNegation hdeep) h₁
      · -- behind its operand a negation asks for nothing more
        cases h₂
  · rw [if_neg hnot] at h
    exact failsAt_of_readPrimary hx hnot hat h
termination_by (s.rest.length, 3)

/-- Where a primary cannot be read, the error has its grounds. -/
theorem failsAt_of_readPrimary {s : Cursor} {x : Expectation} {err : SyntaxError}
    (hx : x.operand = true ∨ options.implicitAnd = true ∧ s.peek.startsOperand = true)
    (hnot : s.peek ≠ .not) (hat : x.IsAt s) (h : readPrimary query options s = .error err) :
    FailsAt query options.implicitAnd x s err := by
  have hx' : (x.operand || options.implicitAnd) = true := by
    rcases hx with hx | ⟨himp, -⟩ <;> simp [*]
  by_cases hop : s.peek.startsOperand
  · rcases Token.startsOperand_cases hop with ⟨text, htext⟩ | hgroup | hnot'
    · rw [readPrimary_of_operand query options htext] at h
      cases h
    · rw [readPrimary_of_openParen query options hgroup] at h
      by_cases hdeep : s.nesting + 1 > maxNesting
      · rw [if_pos hdeep] at h
        cases h
        exact (hat.raises_tooDeep hx' (.inr hgroup) hdeep).failsAt
      · rw [if_neg hdeep] at h
        have hlt : s.enterGroup.rest.length < s.rest.length :=
          Cursor.advance_lt (s := s) (by simp [hgroup])
        have hat' := hat.enterGroup hdeep
        rcases bind_eq_error h with h₁ | ⟨⟨inner, s₁⟩, h₁, h₂⟩
        · -- the error lies inside the group, where the parenthesis is open
          refine FailsAt.of_allows (Cursor.leadsTo_enterGroup hgroup)
            (hat.allows_opener hx' (.inr rfl) hdeep) ?_
          exact failsAt_of_readDisjunction rfl rfl hat' h₁
        · rcases peek_of_readDisjunction h₁ with hclose | hend
          · rw [if_pos hclose] at h₂
            cases h₂
          · rw [if_neg (by rw [hend]; exact Token.noConfusion)] at h₂
            cases h₂
            -- what the group holds was read, and the query ends in front of its parenthesis
            obtain ⟨ts, hreads, hinner, hn⟩ := parses_of_readDisjunction hat'.within h₁
            have hahead : s.advance.ahead = ts := by
              have := hreads.ahead_eq hinner.endOfQuery_notMem
              rwa [Cursor.ahead_eq_nil_iff.mpr hend, List.append_nil] at this
            refine (Expectation.Raises.unclosedOpen hx' ?_ hinner ?_).failsAt
            · rw [Cursor.ahead_eq_cons (by simp [hgroup]), hgroup, hahead]
            · rw [hat.length_eq]
              exact hn
    · exact absurd hnot' hnot
  · rw [readPrimary_of_none query options (Bool.not_eq_true _ ▸ hop)] at h
    cases h
    rcases hx with hx | ⟨-, hop'⟩
    · exact (Expectation.Raises.missingOperand hx hat.groups_eq
        (Bool.not_eq_true _ ▸ hop)).failsAt
    · -- adjacency asks for an operand only where one begins
      exact absurd hop' hop
termination_by (s.rest.length, 2)

end

/-- **Where the parser fails, the error has its grounds.** The tokens in front of the place that the
error names can be followed from the start, and what is expected there and what comes next are the
reason for the error. -/
theorem failsAt_of_parseTokens {lexemes : List Lexeme} {err : SyntaxError}
    (h : parseTokens query lexemes options = .error err) :
    FailsAt query options.implicitAnd .start (Cursor.start lexemes) err := by
  rw [parseTokens_eq] at h
  have hat : Expectation.start.IsAt (Cursor.start lexemes) := ⟨rfl, rfl, Nat.zero_le _⟩
  split at h
  · cases h
  · rcases bind_eq_error h with h₁ | ⟨⟨e, s⟩, h₁, h₂⟩
    · exact failsAt_of_readDisjunction rfl rfl hat h₁
    · -- a whole sentence was read, and a parenthesis follows that closes nothing
      have hsentence := parses_of_readDisjunction (Nat.zero_le _) h₁
      refine FailsAt.of_parses hsentence rfl rfl rfl ?_
      rcases peek_of_readDisjunction h₁ with hclose | hend
      · simp only [hclose] at h₂
        cases h₂
        exact (Expectation.Raises.unmatchedClose rfl rfl hclose).failsAt
      · simp only [hend] at h₂
        cases h₂

end

end LedgerSearch.Query
