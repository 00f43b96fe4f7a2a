import LedgerSearch.Proofs.Query.Grammar
import LedgerSearch.Proofs.Query.Lexer
import LedgerSearch.Proofs.Query.Reading

/-!
# `LedgerSearch.Proofs.Query.Parser`: the parser accepts exactly the sentences of the grammar

`parseTokens_accepts_exactly_grammar` compares the parser with the grammar of
`LedgerSearch.Proofs.Query.Grammar` on every row of tokens: where the row is a sentence that is not
nested too deeply, the parser returns the tree of the sentence, and everywhere else, the empty row
excepted, an error.

Soundness follows the calls of the parser. A result means that a sentence stands between the two
places (`Parses`). The loops take what they have read so far as an operand on the left, so they are
handed a sentence and continue it. The nesting counter needs no invariant of its own: where a
sentence was read, reading has put the counter back (`Parses.nesting_eq`).

Completeness follows the derivation instead (`Derives.completes`). There the loops are in the way,
because a chain of operands is one derivation and several turns of a loop.
-/

set_option autoImplicit false

namespace LedgerSearch.Query

/-! ### How deep the pieces of a sentence go -/

section
variable {implicitAnd : Bool} {ts us : List Token} {e l r : Expr}

theorem Derives.nestingOf_group (h : Derives implicitAnd .disjunction ts e) :
    nestingOf (.openParen :: (ts ++ [.closeParen])) = nestingOf ts + 1 :=
  (hasDepth_group h h.hasDepth).nestingOf_eq

theorem Derives.nestingOf_not (h : Derives implicitAnd .negation ts e) :
    nestingOf (.not :: ts) = nestingOf ts + 1 :=
  (hasDepth_not h.hasDepth).nestingOf_eq

theorem Derives.nestingOf_and (hl : Derives implicitAnd .conjunction ts l)
    (hr : Derives implicitAnd .negation us r) :
    nestingOf (ts ++ .and :: us) = max (nestingOf ts) (nestingOf us) :=
  (hasDepth_append hl (fun _ h => h) hl.hasDepth
    (hr.hasDepth.cons_operator fun _ => rfl)).nestingOf_eq

theorem Derives.nestingOf_adjacent (hl : Derives implicitAnd .conjunction ts l)
    (hr : Derives implicitAnd .negation us r) :
    nestingOf (ts ++ us) = max (nestingOf ts) (nestingOf us) :=
  (hasDepth_append hl (fun _ h => h) hl.hasDepth hr.hasDepth).nestingOf_eq

theorem Derives.nestingOf_or (hl : Derives implicitAnd .disjunction ts l)
    (hr : Derives implicitAnd .conjunction us r) :
    nestingOf (ts ++ .or :: us) = max (nestingOf ts) (nestingOf us) :=
  (hasDepth_append hl (fun _ h => h) hl.hasDepth
    (hr.hasDepth.cons_operator fun _ => rfl)).nestingOf_eq

end

/-! ### Soundness -/

/-- From the first place to the second stands a sentence of the rule, with the tree `e`, that does
not go too deep. -/
def Parses (implicitAnd : Bool) (rule : Rule) (s : Cursor) (e : Expr) (s' : Cursor) : Prop :=
  ∃ ts, s.Reads ts s' ∧ Derives implicitAnd rule ts e ∧ s.nesting + nestingOf ts ≤ maxNesting

namespace Parses

variable {implicitAnd : Bool} {s s₁ s' : Cursor} {e l r : Expr}

theorem operand {text : String} (hs : s.peek = .term text ∨ s.peek = .phrase text)
    (hn : s.nesting ≤ maxNesting) :
    Parses implicitAnd .primary s (.term text) s.advance := by
  have hreads := Cursor.reads_peek (s := s) (by rcases hs with hs | hs <;> simp [hs])
  refine ⟨_, hreads, ?_, ?_⟩
  · rcases hs with hs | hs <;> rw [hs]
    · exact .term text
    · exact .phrase text
  · rcases hs with hs | hs <;> rw [hs] <;> exact hn

theorem group (hs : s.peek = .openParen)
    (h : Parses implicitAnd .disjunction s.enterGroup e s₁) (hclose : s₁.peek = .closeParen) :
    Parses implicitAnd .primary s e s₁.leaveGroup := by
  obtain ⟨ts, hreads, hts, hn⟩ := h
  refine ⟨_, (Cursor.reads_group_iff hs).mpr ⟨s₁, hreads, hclose, rfl⟩, .group hts, ?_⟩
  have hin : s.enterGroup.nesting = s.nesting + 1 := rfl
  rw [hts.nestingOf_group]
  omega

theorem negation (hs : s.peek = .not) (h : Parses implicitAnd .negation s.enterNegation e s₁) :
    Parses implicitAnd .negation s (.not e) s₁.leaveNegation := by
  obtain ⟨ts, hreads, hts, hn⟩ := h
  refine ⟨_, (Cursor.reads_negation_iff hs).mpr ⟨s₁, hreads, rfl⟩, .not hts, ?_⟩
  have hin : s.enterNegation.nesting = s.nesting + 1 := rfl
  rw [hts.nestingOf_not]
  omega

theorem and (hl : Parses implicitAnd .conjunction s l s₁) (hs : s₁.peek = .and)
    (hr : Parses implicitAnd .negation s₁.advance r s') :
    Parses implicitAnd .conjunction s (.and l r) s' := by
  obtain ⟨ts, hreads, hts, hn⟩ := hl
  obtain ⟨us, hreads', hus, hn'⟩ := hr
  refine ⟨_, hreads.append (.cons hs Token.noConfusion hreads'), .and hts hus, ?_⟩
  rw [Cursor.nesting_advance, hreads.nesting_eq] at hn'
  rw [hts.nestingOf_and hus]
  omega

theorem adjacent (himp : implicitAnd = true) (hl : Parses implicitAnd .conjunction s l s₁)
    (hr : Parses implicitAnd .negation s₁ r s') :
    Parses implicitAnd .conjunction s (.and l r) s' := by
  obtain ⟨ts, hreads, hts, hn⟩ := hl
  obtain ⟨us, hreads', hus, hn'⟩ := hr
  refine ⟨_, hreads.append hreads', .adjacent himp hts hus, ?_⟩
  rw [hreads.nesting_eq] at hn'
  rw [hts.nestingOf_adjacent hus]
  omega

theorem or (hl : Parses implicitAnd .disjunction s l s₁) (hs : s₁.peek = .or)
    (hr : Parses implicitAnd .conjunction s₁.advance r s') :
    Parses implicitAnd .disjunction s (.or l r) s' := by
  obtain ⟨ts, hreads, hts, hn⟩ := hl
  obtain ⟨us, hreads', hus, hn'⟩ := hr
  refine ⟨_, hreads.append (.cons hs Token.noConfusion hreads'), .or hts hus, ?_⟩
  rw [Cursor.nesting_advance, hreads.nesting_eq] at hn'
  rw [hts.nestingOf_or hus]
  omega

theorem map {rule rule' : Rule} (hrule : ∀ {ts}, Derives implicitAnd rule ts e →
    Derives implicitAnd rule' ts e) (h : Parses implicitAnd rule s e s') :
    Parses implicitAnd rule' s e s' := by
  obtain ⟨ts, hreads, hts, hn⟩ := h
  exact ⟨ts, hreads, hrule hts, hn⟩

theorem nesting_eq {rule : Rule} (h : Parses implicitAnd rule s e s') : s'.nesting = s.nesting := by
  obtain ⟨ts, hreads, -, -⟩ := h
  exact hreads.nesting_eq

theorem groups_eq {rule : Rule} (h : Parses implicitAnd rule s e s') : s'.groups = s.groups := by
  obtain ⟨ts, hreads, -, -⟩ := h
  exact hreads.groups_eq

end Parses

section
variable {query : String} {options : ParseOptions}

mutual

/-- What a disjunction is read from is a sentence of its rule. -/
theorem parses_of_readDisjunction {s s' : Cursor} {e : Expr} (hn : s.nesting ≤ maxNesting)
    (h : readDisjunction query options s = .ok (e, s')) :
    Parses options.implicitAnd .disjunction s e s' := by
  rw [readDisjunction_eq] at h
  obtain ⟨⟨left, s₁⟩, h₁, h₂⟩ := bind_eq_ok h
  have hlt : s₁.rest.length < s.rest.length := property_of_bare_eq_ok h₁
  have hleft := (parses_of_readConjunction hn h₁).map .conjunction
  exact parses_of_readDisjuncts hn hleft h₂
termination_by (s.rest.length, 5)

/-- What follows the first operands of a disjunction continues their sentence. -/
theorem parses_of_readDisjuncts {s₀ s s' : Cursor} {left e : Expr} (hn : s₀.nesting ≤ maxNesting)
    (hleft : Parses options.implicitAnd .disjunction s₀ left s)
    (h : readDisjuncts query options left s = .ok (e, s')) :
    Parses options.implicitAnd .disjunction s₀ e s' := by
  rw [readDisjuncts_eq] at h
  by_cases hor : s.peek = .or
  · rw [if_pos hor] at h
    -- one turn of the loop: the operand read so far becomes the left one of a longer sentence
    obtain ⟨⟨right, s₁⟩, h₁, h₂⟩ := bind_eq_ok h
    have hlt₀ := Cursor.advance_lt (s := s) (by simp [hor])
    have hlt : s₁.rest.length < s.advance.rest.length := property_of_bare_eq_ok h₁
    have hn' : s.advance.nesting ≤ maxNesting := by
      rwa [Cursor.nesting_advance, hleft.nesting_eq]
    have hright := parses_of_readConjunction hn' h₁
    exact parses_of_readDisjuncts hn (hleft.or hor hright) h₂
  · rw [if_neg hor] at h
    cases h
    exact hleft
termination_by (s.rest.length, 6)

/-- What a conjunction is read from is a sentence of its rule. -/
theorem parses_of_readConjunction {s s' : Cursor} {e : Expr} (hn : s.nesting ≤ maxNesting)
    (h : readConjunction query options s = .ok (e, s')) :
    Parses options.implicitAnd .conjunction s e s' := by
  rw [readConjunction_eq] at h
  obtain ⟨⟨left, s₁⟩, h₁, h₂⟩ := bind_eq_ok h
  have hlt : s₁.rest.length < s.rest.length := property_of_bare_eq_ok h₁
  have hleft := (parses_of_readNegation hn h₁).map .negation
  exact parses_of_readConjuncts hn hleft h₂
termination_by (s.rest.length, 4)

/-- What follows the first operands of a conjunction continues their sentence. -/
theorem parses_of_readConjuncts {s₀ s s' : Cursor} {left e : Expr} (hn : s₀.nesting ≤ maxNesting)
    (hleft : Parses options.implicitAnd .conjunction s₀ left s)
    (h : readConjuncts query options left s = .ok (e, s')) :
    Parses options.implicitAnd .conjunction s₀ e s' := by
  rw [readConjuncts_eq] at h
  by_cases hand : s.peek = .and
  · rw [if_pos hand] at h
    obtain ⟨⟨right, s₁⟩, h₁, h₂⟩ := bind_eq_ok h
    have hlt₀ := Cursor.advance_lt (s := s) (by simp [hand])
    have hlt : s₁.rest.length < s.advance.rest.length := property_of_bare_eq_ok h₁
    have hn' : s.advance.nesting ≤ maxNesting := by
      rwa [Cursor.nesting_advance, hleft.nesting_eq]
    have hright := parses_of_readNegation hn' h₁
    exact parses_of_readConjuncts hn (hleft.and hand hright) h₂
  · rw [if_neg hand] at h
    by_cases hop : s.peek.startsOperand
    · rw [if_pos hop] at h
      by_cases himp : options.implicitAnd
      · rw [if_pos himp] at h
        obtain ⟨⟨right, s₁⟩, h₁, h₂⟩ := bind_eq_ok h
        have hlt : s₁.rest.length < s.rest.length := property_of_bare_eq_ok h₁
        have hn' : s.nesting ≤ maxNesting := by rwa [hleft.nesting_eq]
        -- no token between the operands, so nothing is read but the operand on the right
        have hright := parses_of_readNegation hn' h₁
        exact parses_of_readConjuncts hn (Parses.adjacent himp hleft hright) h₂
      · rw [if_neg himp] at h
        cases h
    · rw [if_neg hop] at h
      cases h
      exact hleft
termination_by (s.rest.length, 6)

/-- What a negation is read from is a sentence of its rule. -/
theorem parses_of_readNegation {s s' : Cursor} {e : Expr} (hn : s.nesting ≤ maxNesting)
    (h : readNegation query options s = .ok (e, s')) :
    Parses options.implicitAnd .negation s e s' := by
  rw [readNegation_eq] at h
  by_cases hnot : s.peek = .not
  · rw [if_pos hnot] at h
    by_cases hdeep : s.nesting + 1 > maxNesting
    · rw [if_pos hdeep] at h
      cases h
    · rw [if_neg hdeep] at h
      obtain ⟨⟨inner, s₁⟩, h₁, h₂⟩ := bind_eq_ok h
      -- inside the operand the counter is one higher, and still within the limit
      have hlt : s.enterNegation.rest.length < s.rest.length :=
        Cursor.advance_lt (s := s) (by simp [hnot])
      have hinner := parses_of_readNegation (Nat.le_of_not_gt hdeep) h₁
      cases h₂
      exact hinner.negation hnot
  · rw [if_neg hnot] at h
    exact (parses_of_readPrimary hn hnot h).map .primary
termination_by (s.rest.length, 3)

/-- What a primary is read from is a sentence of its rule. -/
theorem parses_of_readPrimary {s s' : Cursor} {e : Expr} (hn : s.nesting ≤ maxNesting)
    (hnot : s.peek ≠ .not) (h : readPrimary query options s = .ok (e, s')) :
    Parses options.implicitAnd .primary s e s' := by
  by_cases hop : s.peek.startsOperand
  · rcases Token.startsOperand_cases hop with ⟨text, htext⟩ | hgroup | hnot'
    · rw [readPrimary_of_operand query options htext] at h
      cases h
      exact .operand htext hn
    · rw [readPrimary_of_openParen query options hgroup] at h
      by_cases hdeep : s.nesting + 1 > maxNesting
      · rw [if_pos hdeep] at h
        cases h
      · rw [if_neg hdeep] at h
        obtain ⟨⟨inner, s₁⟩, h₁, h₂⟩ := bind_eq_ok h
        have hlt : s.enterGroup.rest.length < s.rest.length :=
          Cursor.advance_lt (s := s) (by simp [hgroup])
        have hinner := parses_of_readDisjunction (Nat.le_of_not_gt hdeep) h₁
        by_cases hclose : s₁.peek = .closeParen
        · rw [if_pos hclose] at h₂
          cases h₂
          exact hinner.group hgroup hclose
        · rw [if_neg hclose] at h₂
          cases h₂
    · exact absurd hnot' hnot
  -- no operand begins here, which is an error and no result
  · rw [readPrimary_of_none query options (Bool.not_eq_true _ ▸ hop)] at h
    cases h
termination_by (s.rest.length, 2)

end

/-! ### Completeness

The loops of the parser stand between a chain and what follows it. So for a chain the induction does
not say what the whole function returns but where it arrives: behind a sentence of `conjunction`, in
its loop, with the tree of the sentence as the operand on the left. -/

/-- The token does not continue a conjunction. -/
def EndsConjunction (t : Token) : Prop :=
  t ≠ .and ∧ t.startsOperand = false

/-- What the function of the rule does where a sentence of the rule stands. -/
def Completes (query : String) (options : ParseOptions) (rule : Rule) (e : Expr) (s s' : Cursor) :
    Prop :=
  match rule with
  | .primary => readPrimary query options s = .ok (e, s')
  | .negation => readNegation query options s = .ok (e, s')
  | .conjunction => readConjunction query options s = readConjuncts query options e s'
  | .disjunction =>
    EndsConjunction s'.peek → readDisjunction query options s = readDisjuncts query options e s'

theorem readConjuncts_of_ends {s : Cursor} (e : Expr) (h : EndsConjunction s.peek) :
    readConjuncts query options e s = .ok (e, s) := by
  rw [readConjuncts_eq, if_neg h.1, if_neg (by rw [h.2]; decide)]

theorem readDisjuncts_of_ends {s : Cursor} (e : Expr) (h : s.peek ≠ .or) :
    readDisjuncts query options e s = .ok (e, s) := by
  rw [readDisjuncts_eq, if_neg h]

/-- A primary does not begin with a negation. -/
theorem Derives.primary_head {implicitAnd : Bool} {ts : List Token} {e : Expr}
    (h : Derives implicitAnd .primary ts e) : ∃ t us, ts = t :: us ∧ t ≠ .not := by
  cases h with
  | term text => exact ⟨_, _, rfl, Token.noConfusion⟩
  | phrase text => exact ⟨_, _, rfl, Token.noConfusion⟩
  | group _ => exact ⟨_, _, rfl, Token.noConfusion⟩

/-- **Where a sentence of a rule stands that does not go too deep, the function of the rule reads
it.** -/
theorem Derives.completes {rule : Rule} {ts : List Token} {e : Expr}
    (h : Derives options.implicitAnd rule ts e) {s s' : Cursor} (hreads : s.Reads ts s')
    (hn : s.nesting + nestingOf ts ≤ maxNesting) : Completes query options rule e s s' := by
  induction h generalizing s s' with
  | term text =>
      obtain ⟨-, hs, rfl⟩ := hreads
      exact readPrimary_of_operand query options (.inl hs)
  | phrase text =>
      obtain ⟨-, hs, rfl⟩ := hreads
      exact readPrimary_of_operand query options (.inr hs)
  | group inner ih =>
      have hs := hreads.2.1
      obtain ⟨s₁, hin, hclose, rfl⟩ := (Cursor.reads_group_iff hs).mp hreads
      rw [inner.nestingOf_group] at hn
      have hn' : s.enterGroup.nesting = s.nesting + 1 := rfl
      -- the closing parenthesis ends every chain inside
      have hinner := ih hin (by omega) (by rw [hclose]; exact ⟨Token.noConfusion, rfl⟩)
      show readPrimary query options s = _
      rw [readPrimary_of_openParen query options hs, if_neg (by omega), hinner,
        readDisjuncts_of_ends _ (by rw [hclose]; exact Token.noConfusion)]
      exact if_pos hclose
  | primary inner ih =>
      -- the function for negations decides by the first token
      obtain ⟨t, us, rfl, ht⟩ := inner.primary_head
      show readNegation query options s = _
      rw [readNegation_eq, if_neg (by rw [hreads.2.1]; exact ht)]
      exact ih hreads hn
  | not inner ih =>
      have hs := hreads.2.1
      obtain ⟨s₁, hin, rfl⟩ := (Cursor.reads_negation_iff hs).mp hreads
      rw [inner.nestingOf_not] at hn
      have hn' : s.enterNegation.nesting = s.nesting + 1 := rfl
      have hinner : readNegation query options s.enterNegation = _ := ih hin (by omega)
      show readNegation query options s = _
      rw [readNegation_eq, if_pos hs, if_neg (by omega), hinner]
      rfl
  | negation inner ih =>
      show readConjunction query options s = _
      rw [readConjunction_eq, ih hreads hn]
      rfl
  | and left right ihl ihr =>
      obtain ⟨s₁, hl, hr⟩ := Cursor.reads_append.mp hreads
      rw [left.nestingOf_and right] at hn
      have hleft : readConjunction query options s = _ := ihl hl (by omega)
      have hright : readNegation query options s₁.advance = _ :=
        ihr hr.2.2 (by rw [Cursor.nesting_advance, hl.nesting_eq]; omega)
      show readConjunction query options s = _
      rw [hleft, readConjuncts_eq, if_pos hr.2.1, hright]
      rfl
  | adjacent allowed left right ihl ihr =>
      obtain ⟨s₁, hl, hr⟩ := Cursor.reads_append.mp hreads
      rw [left.nestingOf_adjacent right] at hn
      have hleft : readConjunction query options s = _ := ihl hl (by omega)
      have hright : readNegation query options s₁ = _ := ihr hr (by rw [hl.nesting_eq]; omega)
      -- one token is enough to see that an operand follows
      obtain ⟨t, us, rfl, ht⟩ := right.head_startsOperand
      have hs : s₁.peek.startsOperand = true := hr.2.1 ▸ ht
      have hand : s₁.peek ≠ .and := fun h => by rw [h] at hs; cases hs
      show readConjunction query options s = _
      rw [hleft, readConjuncts_eq, if_neg hand, if_pos hs, if_pos allowed, hright]
      rfl
  | conjunction inner ih =>
      intro hends
      have hinner : readConjunction query options s = _ := ih hreads hn
      rw [readDisjunction_eq, hinner, readConjuncts_of_ends _ hends]
      rfl
  | or left right ihl ihr =>
      intro hends
      obtain ⟨s₁, hl, hr⟩ := Cursor.reads_append.mp hreads
      rw [left.nestingOf_or right] at hn
      -- the operator behind the left operand ends its last conjunction
      have hleft := ihl hl (by omega) (by rw [hr.2.1]; exact ⟨Token.noConfusion, rfl⟩)
      have hright : readConjunction query options s₁.advance = _ :=
        ihr hr.2.2 (by rw [Cursor.nesting_advance, hl.nesting_eq]; omega)
      rw [hleft, readDisjuncts_eq, if_pos hr.2.1, hright, readConjuncts_of_ends _ hends]
      rfl

/-! ### The whole row of tokens -/

/-- What a row of tokens means, if it means anything: the empty row holds of everything, any other
row has to be a sentence that nests no deeper than the parser follows. -/
def Means (implicitAnd : Bool) (ts : List Token) (e : Expr) : Prop :=
  ts = [] ∧ e = .matchAll ∨ Derives implicitAnd .disjunction ts e ∧ NestsWithin maxNesting ts

theorem parseTokens_eq (lexemes : List Lexeme) :
    parseTokens query lexemes options
      = if (Cursor.start lexemes).peek = .endOfQuery then .ok .matchAll
        else
          readDisjunction query options (Cursor.start lexemes) >>= fun p =>
            match p.2.peek with
            | .endOfQuery => .ok p.1
            | .closeParen => .error (p.2.fail query .unmatchedClose)
            | token => .error (p.2.fail query (.unexpectedToken token.describe)) := by
  unfold parseTokens readDisjunction
  dsimp only
  split
  · rfl
  · rcases parseDisjunction query options (Cursor.start lexemes) with err | ⟨e, s, hs⟩ <;> rfl

variable {lexemes : List Lexeme} {e : Expr}

/-- The parser accepts a row of tokens exactly where the tokens before the end of the query mean
something, and with that meaning. -/
theorem parseTokens_eq_ok_iff :
    parseTokens query lexemes options = .ok e ↔
      Means options.implicitAnd (Cursor.start lexemes).ahead e := by
  rw [parseTokens_eq]
  constructor
  · intro h
    by_cases hempty : (Cursor.start lexemes).peek = .endOfQuery
    · rw [if_pos hempty] at h
      cases h
      exact .inl ⟨Cursor.ahead_eq_nil_iff.mpr hempty, rfl⟩
    · rw [if_neg hempty] at h
      obtain ⟨⟨e', s⟩, h₁, h₂⟩ := bind_eq_ok h
      obtain ⟨ts, hreads, hts, hn⟩ := parses_of_readDisjunction (Nat.zero_le _) h₁
      -- a sentence holds no end of the query, so it is the front of the tokens ahead
      have hahead := hreads.ahead_eq hts.endOfQuery_notMem
      dsimp only at h₂
      split at h₂
      · rename_i hend
        cases h₂
        rw [Cursor.ahead_eq_nil_iff.mpr hend, List.append_nil] at hahead
        rw [show (Cursor.start lexemes).nesting = 0 from rfl, Nat.zero_add] at hn
        exact .inr ⟨hahead ▸ hts, hahead ▸ nestsWithin_iff.mpr hn⟩
      · cases h₂
      · cases h₂
  · intro h
    -- reading the whole row leads to a place where the end of the query comes next
    obtain ⟨s, hreads, hend⟩ := (Cursor.start lexemes).reads_ahead
    rcases h with ⟨hempty, rfl⟩ | ⟨hts, hn⟩
    · exact if_pos (Cursor.ahead_eq_nil_iff.mp hempty)
    · have hstart : (Cursor.start lexemes).peek ≠ .endOfQuery := by
        intro hstart
        obtain ⟨t, us, hcons, -⟩ := hts.head_startsOperand
        rw [Cursor.ahead_eq_nil_iff.mpr hstart] at hcons
        cases hcons
      have hread : readDisjunction query options (Cursor.start lexemes)
          = readDisjuncts query options e s := by
        refine hts.completes hreads ?_ (by rw [hend]; exact ⟨Token.noConfusion, rfl⟩)
        rw [show (Cursor.start lexemes).nesting = 0 from rfl, Nat.zero_add]
        exact nestsWithin_iff.mp hn
      rw [if_neg hstart, hread,
        readDisjuncts_of_ends e (by rw [hend]; exact Token.noConfusion)]
      show (match s.peek with | .endOfQuery => _ | .closeParen => _ | token => _) = _
      rw [hend]

/-- The tokens up to the end of the query, when the end is written as a token behind them. -/
theorem ahead_start {ts : List Token} (hts : .endOfQuery ∉ ts)
    (hl : lexemes.map (·.token) = ts ++ [.endOfQuery]) : (Cursor.start lexemes).ahead = ts := by
  show (lexemes.map (·.token)).takeWhile (· ≠ .endOfQuery) = ts
  rw [hl, Cursor.takeWhile_append_of_notMem hts]
  exact List.append_nil ts

/-- A query is accepted exactly where its tokens mean something, and with that meaning. -/
theorem parse_eq_ok_iff {ts : List Token} (hts : tokensOf query.toList = ts ++ [.endOfQuery])
    (hend : .endOfQuery ∉ ts) : parse query options = .ok e ↔ Means options.implicitAnd ts e := by
  have hlex : (lex query).map (·.token) = ts ++ [Token.endOfQuery] := hts
  rw [parse, parseTokens_eq_ok_iff, ahead_start hend hlex]

/-- **The parser accepts the grammar.** On a row of tokens with the end of the query behind it, the
parser gives the tree of the row where the row is a sentence that is not nested too deeply, gives
`matchAll` where the row is empty, and gives an error everywhere else. -/
theorem parseTokens_accepts_exactly_grammar {ts : List Token} (hts : .endOfQuery ∉ ts)
    (hl : lexemes.map (·.token) = ts ++ [.endOfQuery]) :
    (∀ e, parseTokens query lexemes options = .ok e ↔
      ts = [] ∧ e = .matchAll ∨
        Derives options.implicitAnd .disjunction ts e ∧ NestsWithin maxNesting ts) ∧
    ((¬ ∃ e, ts = [] ∧ e = .matchAll ∨
        Derives options.implicitAnd .disjunction ts e ∧ NestsWithin maxNesting ts) →
      ∃ err, parseTokens query lexemes options = .error err) := by
  have hok : ∀ e, parseTokens query lexemes options = .ok e ↔ Means options.implicitAnd ts e := by
    intro e
    rw [parseTokens_eq_ok_iff, ahead_start hts hl]
  refine ⟨hok, fun hnone => ?_⟩
  cases h : parseTokens query lexemes options with
  | error err => exact ⟨err, rfl⟩
  | ok e => exact absurd ⟨e, (hok e).mp h⟩ hnone

/-- The row `( a OR "b" ) NOT c` with the end behind it, at offsets that play no part. -/
theorem parseTokens_group_then_negation :
    let ts := [Token.openParen, .term "a", .or, .phrase "b", .closeParen, .not, .term "c"]
    let lexemes := (ts ++ [Token.endOfQuery]).map fun t => Lexeme.mk t 0
    Token.endOfQuery ∉ ts ∧ lexemes.map (·.token) = ts ++ [.endOfQuery] ∧
      parseTokens "" lexemes {} = .ok (.and (.or (.term "a") (.term "b")) (.not (.term "c"))) := by
  intro ts lexemes
  have hts : Token.endOfQuery ∉ ts := by decide
  have hl : lexemes.map (·.token) = ts ++ [Token.endOfQuery] := rfl
  refine ⟨hts, hl, ((parseTokens_accepts_exactly_grammar hts hl).1 _).mpr ?_⟩
  have hb : Derives true .conjunction [.phrase "b"] (.term "b") :=
    .negation (.primary (.phrase "b"))
  have hgroup := Derives.group (.or (.conjunction (.negation (.primary (.term "a")))) hb)
  have hnot : Derives true .negation [.not, .term "c"] (.not (.term "c")) :=
    .not (.primary (.term "c"))
  exact .inr ⟨.conjunction (.adjacent rfl (.negation (.primary hgroup)) hnot),
    nestsWithin_iff.mpr (by decide)⟩

end

end LedgerSearch.Query
