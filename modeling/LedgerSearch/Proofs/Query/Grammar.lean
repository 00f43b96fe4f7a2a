import LedgerSearch.Query.Expr
import LedgerSearch.Query.Token

/-!
# `LedgerSearch.Proofs.Query.Grammar`: the query language as a relation

The grammar of `LedgerSearch.Query.Parser`, without a parser: `Derives implicitAnd rule ts e` says
that the tokens `ts` are a sentence of the rule and that `e` is the tree of the sentence. A chain
such as `conjunction (OR conjunction)*` is written as a rule that recurs on its left, so the shape
of a derivation is the shape of the tree: chains group to the left, parentheses leave no node.

The parser takes a sentence only when it is not nested too deeply. What is open at a place in a row
of tokens needs no parser either: `openers` reads the tokens before the place as a stack of
parentheses and negations, where a negation waits until the operand behind it is complete.
`NestsWithin limit ts` says that the stack never grows beyond the limit.

Two facts carry the use of the stack. A sentence leaves behind what it found open, less the
negations that waited for it (`Derives.openersFrom_eq`); and how deep it goes does not depend on
what is open around it (`Derives.hasDepth`), so that `nestingOf` can be read off piece by piece.
-/

set_option autoImplicit false

namespace LedgerSearch.Query

/-! ### The grammar -/

/-- The rules of the grammar. -/
inductive Rule
  | disjunction | conjunction | negation | primary
deriving DecidableEq, Repr

/-- The tokens are a sentence of the rule, and the expression is its tree. Operands side by side
make a conjunction only where `implicitAnd` holds. -/
inductive Derives (implicitAnd : Bool) : Rule → List Token → Expr → Prop
  | term (text : String) : Derives implicitAnd .primary [.term text] (.term text)
  | phrase (text : String) : Derives implicitAnd .primary [.phrase text] (.term text)
  | group {ts : List Token} {e : Expr} (inner : Derives implicitAnd .disjunction ts e) :
      Derives implicitAnd .primary (.openParen :: (ts ++ [.closeParen])) e
  | primary {ts : List Token} {e : Expr} (inner : Derives implicitAnd .primary ts e) :
      Derives implicitAnd .negation ts e
  | not {ts : List Token} {e : Expr} (inner : Derives implicitAnd .negation ts e) :
      Derives implicitAnd .negation (.not :: ts) (.not e)
  | negation {ts : List Token} {e : Expr} (inner : Derives implicitAnd .negation ts e) :
      Derives implicitAnd .conjunction ts e
  | and {ts us : List Token} {l r : Expr} (left : Derives implicitAnd .conjunction ts l)
      (right : Derives implicitAnd .negation us r) :
      Derives implicitAnd .conjunction (ts ++ .and :: us) (.and l r)
  | adjacent {ts us : List Token} {l r : Expr} (allowed : implicitAnd = true)
      (left : Derives implicitAnd .conjunction ts l) (right : Derives implicitAnd .negation us r) :
      Derives implicitAnd .conjunction (ts ++ us) (.and l r)
  | conjunction {ts : List Token} {e : Expr} (inner : Derives implicitAnd .conjunction ts e) :
      Derives implicitAnd .disjunction ts e
  | or {ts us : List Token} {l r : Expr} (left : Derives implicitAnd .disjunction ts l)
      (right : Derives implicitAnd .conjunction us r) :
      Derives implicitAnd .disjunction (ts ++ .or :: us) (.or l r)

/-- The tokens that start an operand. -/
theorem Token.startsOperand_cases {t : Token} (h : t.startsOperand = true) :
    (∃ text, t = .term text ∨ t = .phrase text) ∨ t = .openParen ∨ t = .not := by
  cases t with
  | term text => exact .inl ⟨text, .inl rfl⟩
  | phrase text => exact .inl ⟨text, .inr rfl⟩
  | openParen => exact .inr (.inl rfl)
  | not => exact .inr (.inr rfl)
  | and | or | closeParen | endOfQuery => cases h

variable {implicitAnd : Bool} {rule : Rule} {ts : List Token} {e : Expr}

/-- A sentence never mentions the end of the query. -/
theorem Derives.endOfQuery_notMem (h : Derives implicitAnd rule ts e) : Token.endOfQuery ∉ ts := by
  induction h <;> simp_all

/-- Every sentence begins with a token that starts an operand. -/
theorem Derives.head_startsOperand (h : Derives implicitAnd rule ts e) :
    ∃ t us, ts = t :: us ∧ t.startsOperand = true := by
  induction h with
  | term text => exact ⟨_, _, rfl, rfl⟩
  | phrase text => exact ⟨_, _, rfl, rfl⟩
  | group _ _ => exact ⟨_, _, rfl, rfl⟩
  | primary _ ih => exact ih
  | not _ _ => exact ⟨_, _, rfl, rfl⟩
  | negation _ ih => exact ih
  | and _ _ ihl _ =>
      obtain ⟨t, us, rfl, ht⟩ := ihl
      exact ⟨t, _, rfl, ht⟩
  | adjacent _ _ _ ihl _ =>
      obtain ⟨t, us, rfl, ht⟩ := ihl
      exact ⟨t, _, rfl, ht⟩
  | conjunction _ ih => exact ih
  | or _ _ ihl _ =>
      obtain ⟨t, us, rfl, ht⟩ := ihl
      exact ⟨t, _, rfl, ht⟩

/-! ### What is open at a place -/

/-- Something that has been opened and waits for its end: a parenthesis for the closing one, a
negation for its operand. -/
inductive Opener
  | group | negation
deriving DecidableEq, Repr

/-- What stays open, innermost first, when an operand is complete: the negations that waited for it
are done. -/
def settle : List Opener → List Opener
  | .negation :: stack => settle stack
  | stack => stack

/-- What is open behind a token. -/
def openersStep (stack : List Opener) : Token → List Opener
  | .not => .negation :: stack
  | .openParen => .group :: stack
  | .closeParen => settle (settle stack).tail
  | .term _ | .phrase _ => settle stack
  | .and | .or | .endOfQuery => stack

/-- What is open behind the tokens when `stack` is open before them. -/
def openersFrom (stack : List Opener) (ts : List Token) : List Opener :=
  ts.foldl openersStep stack

/-- The parentheses and negations that are open behind the tokens, innermost first. -/
def openers (ts : List Token) : List Opener :=
  openersFrom [] ts

/-- At no place in the row of tokens are more than `limit` parentheses and negations open. -/
def NestsWithin (limit : Nat) (ts : List Token) : Prop :=
  ∀ before, before <+: ts → (openers before).length ≤ limit

theorem openersFrom_cons (stack : List Opener) (t : Token) (ts : List Token) :
    openersFrom stack (t :: ts) = openersFrom (openersStep stack t) ts :=
  rfl

theorem openersFrom_append (stack : List Opener) (ts us : List Token) :
    openersFrom stack (ts ++ us) = openersFrom (openersFrom stack ts) us :=
  List.foldl_append

@[simp]
theorem settle_settle (stack : List Opener) : settle (settle stack) = settle stack := by
  fun_induction settle stack with
  | case1 stack ih => exact ih
  | case2 stack h =>
      -- the stack does not begin with a negation, so there is nothing left to settle
      rw [settle]
      exact h

theorem settle_length_le (stack : List Opener) : (settle stack).length ≤ stack.length := by
  fun_induction settle stack with
  | case1 stack ih => exact Nat.le_succ_of_le ih
  | case2 stack _ => exact Nat.le_refl _

/-! ### How deep a row of tokens goes -/

/-- The most that is open at a place in the row of tokens when `stack` is open before it. -/
def deepest (stack : List Opener) : List Token → Nat
  | [] => stack.length
  | t :: ts => max stack.length (deepest (openersStep stack t) ts)

theorem deepest_cons (stack : List Opener) (t : Token) (ts : List Token) :
    deepest stack (t :: ts) = max stack.length (deepest (openersStep stack t) ts) :=
  rfl

/-- The most that is open at a place in the row of tokens. -/
def nestingOf (ts : List Token) : Nat :=
  deepest [] ts

theorem length_le_deepest (stack : List Opener) (ts : List Token) :
    stack.length ≤ deepest stack ts := by
  cases ts with
  | nil => exact Nat.le_refl _
  | cons t ts => exact Nat.le_max_left _ _

theorem deepest_append (stack : List Opener) (ts us : List Token) :
    deepest stack (ts ++ us) = max (deepest stack ts) (deepest (openersFrom stack ts) us) := by
  induction ts generalizing stack with
  | nil => exact (Nat.max_eq_right (length_le_deepest stack us)).symm
  | cons t ts ih =>
      rw [List.cons_append, deepest_cons, deepest_cons, ih, openersFrom_cons, Nat.max_assoc]

/-- The stack stays within a limit at every place exactly where its greatest length does. -/
theorem deepest_le_iff {limit : Nat} {stack : List Opener} {ts : List Token} :
    deepest stack ts ≤ limit ↔
      ∀ before, before <+: ts → (openersFrom stack before).length ≤ limit := by
  induction ts generalizing stack with
  | nil =>
      show stack.length ≤ limit ↔ _
      simp [openersFrom]
  | cons t ts ih =>
      rw [deepest_cons, Nat.max_le, ih]
      constructor
      · rintro ⟨hhead, htail⟩ before hbefore
        rcases List.prefix_cons_iff.mp hbefore with rfl | ⟨_, rfl, hrest⟩
        · exact hhead
        · exact htail _ hrest
      · intro h
        -- the place before the first token is the empty prefix
        refine ⟨h [] (List.nil_prefix), fun before hbefore => ?_⟩
        exact h (t :: before) (List.prefix_cons_inj t |>.mpr hbefore)

theorem nestsWithin_iff {limit : Nat} {ts : List Token} :
    NestsWithin limit ts ↔ nestingOf ts ≤ limit :=
  deepest_le_iff.symm

/-! ### Sentences and what is open -/

/-- The stack can lie under a sentence of the rule: no negation waits for a chain, only for a single
operand. -/
def Rule.StartsOn : Rule → List Opener → Prop
  | .disjunction, stack | .conjunction, stack => settle stack = stack
  | .negation, _ | .primary, _ => True

theorem Rule.startsOn_nil (rule : Rule) : rule.StartsOn [] := by
  cases rule <;> trivial

theorem Rule.startsOn_settle (rule : Rule) (stack : List Opener) :
    rule.StartsOn (settle stack) := by
  cases rule <;> first | trivial | exact settle_settle stack

/-- A sentence closes what it opens and completes the negations that waited for it. -/
theorem Derives.openersFrom_eq (h : Derives implicitAnd rule ts e) {stack : List Opener}
    (hs : rule.StartsOn stack) : openersFrom stack ts = settle stack := by
  induction h generalizing stack with
  | term text => rfl
  | phrase text => rfl
  | group _ ih =>
      -- inside the parentheses the parenthesis itself is on top, so no negation waits there
      have hs' : Rule.disjunction.StartsOn (.group :: stack) := rfl
      rw [openersFrom_cons, openersFrom_append]
      show openersFrom (openersFrom (.group :: stack) _) [.closeParen] = settle stack
      rw [ih hs']
      rfl
  | primary _ ih => exact ih trivial
  | not _ ih => exact ih trivial
  | negation _ ih => exact ih trivial
  | and _ _ ihl ihr =>
      -- the operand on the left has settled the stack, the one on the right finds it so
      rw [openersFrom_append, ihl hs, openersFrom_cons]
      exact (ihr trivial).trans (settle_settle stack)
  | adjacent _ _ _ ihl ihr =>
      rw [openersFrom_append, ihl hs, ihr trivial, settle_settle]
  | conjunction _ ih => exact ih hs
  | or _ _ ihl ihr =>
      rw [openersFrom_append, ihl hs, openersFrom_cons]
      exact (ihr (settle_settle stack)).trans (settle_settle stack)

/-- The tokens go `depth` deeper than what is open around them, whatever that is. -/
def HasDepth (rule : Rule) (ts : List Token) (depth : Nat) : Prop :=
  ∀ stack, rule.StartsOn stack → deepest stack ts = stack.length + depth

theorem HasDepth.nestingOf_eq {depth : Nat} (h : HasDepth rule ts depth) :
    nestingOf ts = depth := by
  have h₀ := h [] rule.startsOn_nil
  rwa [List.length_nil, Nat.zero_add] at h₀

/-- A word or a phrase opens nothing. -/
theorem hasDepth_operand {t : Token} (ht : ∀ stack, openersStep stack t = settle stack) :
    HasDepth rule [t] 0 := by
  intro stack _
  rw [deepest_cons, ht]
  exact Nat.max_eq_left (settle_length_le stack)

theorem hasDepth_group {depth : Nat} (h : Derives implicitAnd .disjunction ts e)
    (hd : HasDepth .disjunction ts depth) :
    HasDepth .primary (.openParen :: (ts ++ [.closeParen])) (depth + 1) := by
  intro stack _
  have hs : Rule.disjunction.StartsOn (.group :: stack) := rfl
  have hle := settle_length_le stack
  -- what comes behind the group is no deeper than the group
  have hclose : deepest (.group :: stack) [.closeParen] = stack.length + 1 := by
    show max (stack.length + 1) (settle stack).length = stack.length + 1
    omega
  show max stack.length (deepest (.group :: stack) (ts ++ [Token.closeParen])) = _
  rw [deepest_append, hd _ hs, h.openersFrom_eq hs]
  show max stack.length
    (max (stack.length + 1 + depth) (deepest (.group :: stack) [.closeParen])) = _
  rw [hclose]
  omega

theorem hasDepth_not {depth : Nat} (hd : HasDepth .negation ts depth) :
    HasDepth .negation (.not :: ts) (depth + 1) := by
  intro stack _
  show max stack.length (deepest (.negation :: stack) ts) = _
  rw [hd _ trivial, List.length_cons]
  omega

/-- Of a sentence and what follows it, the deeper one counts. -/
theorem hasDepth_append {rule' : Rule} {us : List Token} {depth depth' : Nat}
    (h : Derives implicitAnd rule ts e)
    (hchain : ∀ stack, rule.StartsOn stack → settle stack = stack)
    (hd : HasDepth rule ts depth) (hd' : HasDepth rule' us depth') :
    HasDepth rule (ts ++ us) (max depth depth') := by
  intro stack hs
  rw [deepest_append, hd stack hs, h.openersFrom_eq hs, hd' _ (rule'.startsOn_settle stack),
    hchain stack hs]
  omega

/-- A binary operator opens nothing. -/
theorem HasDepth.cons_operator {depth : Nat} {t : Token}
    (ht : ∀ stack, openersStep stack t = stack) (hd : HasDepth rule ts depth) :
    HasDepth rule (t :: ts) depth := by
  intro stack hs
  rw [deepest_cons, ht, hd stack hs]
  omega

/-- A sentence goes equally deep whatever is open around it. -/
theorem Derives.hasDepth (h : Derives implicitAnd rule ts e) : HasDepth rule ts (nestingOf ts) := by
  -- That there is a depth at all is the claim. Over the empty stack it is `nestingOf`.
  suffices hex : ∃ depth, HasDepth rule ts depth by
    obtain ⟨depth, hd⟩ := hex
    rwa [hd.nestingOf_eq]
  induction h with
  | term text => exact ⟨0, hasDepth_operand fun _ => rfl⟩
  | phrase text => exact ⟨0, hasDepth_operand fun _ => rfl⟩
  | group inner ih =>
      obtain ⟨d, hd⟩ := ih
      exact ⟨d + 1, hasDepth_group inner hd⟩
  | primary _ ih => exact ih
  | not _ ih =>
      obtain ⟨d, hd⟩ := ih
      exact ⟨d + 1, hasDepth_not hd⟩
  | negation _ ih =>
      obtain ⟨d, hd⟩ := ih
      exact ⟨d, fun stack _ => hd stack trivial⟩
  | and left right ihl ihr =>
      obtain ⟨dl, hl⟩ := ihl
      obtain ⟨dr, hr⟩ := ihr
      exact ⟨max dl dr, hasDepth_append left (fun _ h => h) hl (hr.cons_operator fun _ => rfl)⟩
  | adjacent _ left right ihl ihr =>
      obtain ⟨dl, hl⟩ := ihl
      obtain ⟨dr, hr⟩ := ihr
      exact ⟨max dl dr, hasDepth_append left (fun _ h => h) hl hr⟩
  | conjunction _ ih => exact ih
  | or left right ihl ihr =>
      obtain ⟨dl, hl⟩ := ihl
      obtain ⟨dr, hr⟩ := ihr
      exact ⟨max dl dr, hasDepth_append left (fun _ h => h) hl (hr.cons_operator fun _ => rfl)⟩

end LedgerSearch.Query
