import LedgerSearch.Proofs.Query.Parser

/-!
# `LedgerSearch.Proofs.Query.Expectation`: what may come next in a query

How a row of tokens may go on depends on two things: whether an operand has to come next or has just
ended, and what is open at that place. An `Expectation` holds the two. `Expectation.run` follows a
row of tokens from one expectation to the next and stops in front of a token that may not come.

It is the grammar once more, told from left to right and without a tree. Every sentence can be
followed to its end (`Derives.run_eq`), and from every expectation there is a way to the end of a
query (`Expectation.exists_run`), since an operand and some closing parentheses are always allowed
in their place. What is expected behind a row can also be told from the row itself: its last token
decides whether an operand has to come (`operand_of_run`), and what it leaves open is the stack
(`stack_of_run`). That a row which is followed to the end is a sentence is left to the parser, see
`LedgerSearch.Proofs.Query.Faults`.
-/

set_option autoImplicit false

namespace LedgerSearch.Query

/-- An operand can end with the token. -/
def Token.endsOperand : Token → Bool
  | .term _ | .phrase _ | .closeParen => true
  | _ => false

/-- What may come next behind some tokens. -/
@[ext]
structure Expectation where
  /-- An operand has to come next. If not, one has just ended. -/
  operand : Bool
  /-- What is open, innermost first. -/
  stack : List Opener
  /-- No negation waits behind the end of an operand. -/
  settled : operand = false → settle stack = stack

namespace Expectation

/-- In front of a query. -/
def start : Expectation :=
  ⟨true, [], Bool.noConfusion⟩

/-- Behind an operand, with what was open around it. -/
def fulfilled (x : Expectation) : Expectation :=
  ⟨false, settle x.stack, fun _ => settle_settle x.stack⟩

/-- The token may come next. The end of a query is none of its tokens. -/
def allows (implicitAnd : Bool) (x : Expectation) : Token → Bool
  | .term _ | .phrase _ => x.operand || implicitAnd
  | .not | .openParen => (x.operand || implicitAnd) && decide (x.stack.length < maxNesting)
  | .and | .or => !x.operand
  | .closeParen => !x.operand && !x.stack.isEmpty
  | .endOfQuery => false

/-- What may come next behind the token. -/
def after (x : Expectation) (t : Token) : Expectation where
  operand := !t.endsOperand
  stack := openersStep x.stack t
  settled := by
    cases t with
    | term | phrase | closeParen => exact fun _ => settle_settle _
    | and | or | not | openParen | endOfQuery => exact Bool.noConfusion

/-- A negation or a group may be opened where an operand may come, within the limit. -/
theorem allows_opener {implicitAnd : Bool} {x : Expectation} {t : Token}
    (ht : t = .not ∨ t = .openParen) (hx : (x.operand || implicitAnd) = true)
    (hlen : x.stack.length < maxNesting) : x.allows implicitAnd t = true := by
  have hboth : ((x.operand || implicitAnd) && decide (x.stack.length < maxNesting)) = true := by
    rw [hx, decide_eq_true hlen, Bool.and_self]
  rcases ht with rfl | rfl
  · exact hboth
  · exact hboth

/-- What may come next behind the tokens, or nothing when one of them may not come. -/
def run (implicitAnd : Bool) : Expectation → List Token → Option Expectation
  | x, [] => some x
  | x, t :: ts => if x.allows implicitAnd t then (x.after t).run implicitAnd ts else none

variable {implicitAnd : Bool} {x : Expectation} {t : Token} {ts us : List Token}

theorem run_cons :
    x.run implicitAnd (t :: ts)
      = if x.allows implicitAnd t then (x.after t).run implicitAnd ts else none :=
  rfl

theorem run_cons_of_allows (h : x.allows implicitAnd t = true) :
    x.run implicitAnd (t :: ts) = (x.after t).run implicitAnd ts :=
  if_pos h

theorem run_cons_of_not_allows (h : x.allows implicitAnd t = false) :
    x.run implicitAnd (t :: ts) = none :=
  if_neg (by rw [h]; exact Bool.false_ne_true)

theorem run_append :
    x.run implicitAnd (ts ++ us) = (x.run implicitAnd ts).bind fun y => y.run implicitAnd us := by
  induction ts generalizing x with
  | nil => rfl
  | cons t ts ih =>
      rw [List.cons_append, run_cons, run_cons]
      split
      · exact ih
      · rfl

theorem run_cons_eq_some_iff {y : Expectation} :
    x.run implicitAnd (t :: ts) = some y ↔
      x.allows implicitAnd t = true ∧ (x.after t).run implicitAnd ts = some y := by
  rw [run_cons]
  split <;> simp [*]

/-- A row that can be followed holds no end of the query. -/
theorem endOfQuery_notMem_of_run {y : Expectation} (h : x.run implicitAnd ts = some y) :
    Token.endOfQuery ∉ ts := by
  induction ts generalizing x with
  | nil => exact List.not_mem_nil
  | cons t ts ih =>
      obtain ⟨ht, h⟩ := run_cons_eq_some_iff.mp h
      rintro (_ | ⟨_, hmem⟩)
      · exact Bool.false_ne_true ht
      · exact ih h hmem

/-! ### What is expected behind some tokens -/

/-- An operand has to come unless the last token ends one. -/
theorem operand_of_run {y : Expectation} (h : x.run implicitAnd ts = some y) :
    y.operand = (ts.getLast?.map (!·.endsOperand)).getD x.operand := by
  induction ts generalizing x with
  | nil => cases h; rfl
  | cons t ts ih =>
      rw [ih (run_cons_eq_some_iff.mp h).2, List.getLast?_cons]
      cases ts.getLast? <;> rfl

/-- The stack is what the tokens leave open. -/
theorem stack_of_run {y : Expectation} (h : x.run implicitAnd ts = some y) :
    y.stack = openersFrom x.stack ts := by
  induction ts generalizing x with
  | nil => cases h; rfl
  | cons t ts ih => exact ih (run_cons_eq_some_iff.mp h).2

/-- A token that may come opens nothing beyond the limit. -/
theorem length_after_le (ht : x.allows implicitAnd t = true)
    (hx : x.stack.length ≤ maxNesting) : (x.after t).stack.length ≤ maxNesting := by
  show (openersStep x.stack t).length ≤ maxNesting
  have hsettle := settle_length_le x.stack
  cases t with
  | term | phrase => exact hsettle.trans hx
  | and | or | endOfQuery => exact hx
  | not | openParen =>
      simp only [allows, Bool.and_eq_true, decide_eq_true_eq] at ht
      exact ht.2
  | closeParen =>
      have := settle_length_le (settle x.stack).tail
      rw [List.length_tail] at this
      show (settle (settle x.stack).tail).length ≤ maxNesting
      omega

/-- Tokens that may come stay within the limit. -/
theorem deepest_of_run {y : Expectation} (h : x.run implicitAnd ts = some y)
    (hx : x.stack.length ≤ maxNesting) : deepest x.stack ts ≤ maxNesting := by
  induction ts generalizing x with
  | nil => exact hx
  | cons t ts ih =>
      obtain ⟨ht, h⟩ := run_cons_eq_some_iff.mp h
      exact Nat.max_le.mpr ⟨hx, ih h (length_after_le ht hx)⟩

/-! ### The way to the end of a query -/

/-- Closing parentheses lead from the end of an operand to the end of a query. -/
theorem exists_run_of_not_operand (implicitAnd : Bool) {x : Expectation} (hx : x.operand = false) :
    ∃ us, x.run implicitAnd us = some start.fulfilled := by
  -- Each parenthesis closes a group and ends the negations that waited for it.
  obtain ⟨n, hn⟩ : ∃ n, x.stack.length ≤ n := ⟨_, Nat.le_refl _⟩
  induction n generalizing x with
  | zero =>
      have hstack : x.stack = [] := List.length_eq_zero_iff.mp (Nat.le_zero.mp hn)
      exact ⟨[], congrArg some (Expectation.ext hx hstack)⟩
  | succ n ih =>
      by_cases hstack : x.stack = []
      · exact ⟨[], congrArg some (Expectation.ext hx hstack)⟩
      · have hallows : x.allows implicitAnd .closeParen = true := by
          show (!x.operand && !x.stack.isEmpty) = true
          simp [hx, hstack]
        have hlen : (x.after .closeParen).stack.length ≤ n := by
          show (settle (settle x.stack).tail).length ≤ n
          rw [x.settled hx]
          have := settle_length_le x.stack.tail
          rw [List.length_tail] at this
          omega
        obtain ⟨us, hus⟩ := ih rfl hlen
        exact ⟨.closeParen :: us, by rw [run_cons_of_allows hallows, hus]⟩

/-- **From every place a query can be completed.** Where an operand is expected, a word is one. -/
theorem exists_run (implicitAnd : Bool) (x : Expectation) :
    ∃ us, x.run implicitAnd us = some start.fulfilled := by
  cases hx : x.operand with
  | false => exact exists_run_of_not_operand implicitAnd hx
  | true =>
      have hallows : x.allows implicitAnd (.term "") = true := by
        show (x.operand || implicitAnd) = true
        rw [hx, Bool.true_or]
      obtain ⟨us, hus⟩ := exists_run_of_not_operand implicitAnd (x := x.after (.term "")) rfl
      exact ⟨.term "" :: us, by rw [run_cons_of_allows hallows, hus]⟩

end Expectation

/-! ### Sentences -/

/-- Every sentence ends with a token that ends an operand. -/
theorem Derives.last_endsOperand {implicitAnd : Bool} {rule : Rule} {ts : List Token} {e : Expr}
    (h : Derives implicitAnd rule ts e) :
    ∃ front t, ts = front ++ [t] ∧ t.endsOperand = true := by
  induction h with
  | term text => exact ⟨[], _, rfl, rfl⟩
  | phrase text => exact ⟨[], _, rfl, rfl⟩
  | @group ts _ _ _ => exact ⟨.openParen :: ts, _, rfl, rfl⟩
  | primary _ ih => exact ih
  | not _ ih =>
      obtain ⟨front, t, rfl, ht⟩ := ih
      exact ⟨.not :: front, t, rfl, ht⟩
  | negation _ ih => exact ih
  | @and ts _ _ _ _ _ _ ihr =>
      obtain ⟨front, t, rfl, ht⟩ := ihr
      exact ⟨ts ++ .and :: front, t, by simp, ht⟩
  | @adjacent ts _ _ _ _ _ _ _ ihr =>
      obtain ⟨front, t, rfl, ht⟩ := ihr
      exact ⟨ts ++ front, t, by simp, ht⟩
  | conjunction _ ih => exact ih
  | @or ts _ _ _ _ _ _ ihr =>
      obtain ⟨front, t, rfl, ht⟩ := ihr
      exact ⟨ts ++ .or :: front, t, by simp, ht⟩

open Expectation in
/-- **A sentence can be followed to its end.** It is enough that an operand may come where it begins
and that it does not go too deep there. -/
theorem Derives.run_eq {implicitAnd : Bool} {rule : Rule} {ts : List Token} {e : Expr}
    (h : Derives implicitAnd rule ts e) {x : Expectation} (hs : rule.StartsOn x.stack)
    (hx : (x.operand || implicitAnd) = true)
    (hn : x.stack.length + nestingOf ts ≤ maxNesting) :
    x.run implicitAnd ts = some x.fulfilled := by
  induction h generalizing x with
  | term text | phrase text => exact run_cons_of_allows hx
  | @group ts e inner ih =>
      rw [inner.nestingOf_group] at hn
      have hopen : x.allows implicitAnd .openParen = true :=
        allows_opener (.inr rfl) hx (by omega)
      have hinner : (x.after .openParen).run implicitAnd ts = some (x.after .openParen).fulfilled :=
        ih rfl rfl (by show x.stack.length + 1 + _ ≤ _; omega)
      -- inside, the parenthesis itself is open, so the closing one may come
      rw [run_cons_of_allows hopen, run_append, hinner, Option.bind_some]
      exact run_cons_of_allows rfl
  | primary _ ih => exact ih trivial hx hn
  | @not ts e inner ih =>
      rw [inner.nestingOf_not] at hn
      have hnot : x.allows implicitAnd .not = true := allows_opener (.inl rfl) hx (by omega)
      rw [run_cons_of_allows hnot,
        ih (x := x.after .not) trivial rfl (by show x.stack.length + 1 + _ ≤ _; omega)]
      rfl
  | negation _ ih => exact ih trivial hx hn
  | @and ts us l r left right ihl ihr =>
      rw [left.nestingOf_and right] at hn
      have hstack : (x.fulfilled.after .and).stack = x.stack := hs
      rw [run_append, ihl hs hx (by omega), Option.bind_some, run_cons_of_allows rfl,
        ihr trivial rfl (by rw [hstack]; omega)]
      exact congrArg some (Expectation.ext rfl (settle_settle _))
  | @adjacent ts us l r allowed left right ihl ihr =>
      rw [left.nestingOf_adjacent right] at hn
      have hstack : x.fulfilled.stack = x.stack := hs
      rw [run_append, ihl hs hx (by omega), Option.bind_some,
        ihr trivial (by rw [allowed, Bool.or_true]) (by rw [hstack]; omega)]
      exact congrArg some (Expectation.ext rfl (settle_settle _))
  | conjunction _ ih => exact ih hs hx hn
  | @or ts us l r left right ihl ihr =>
      rw [left.nestingOf_or right] at hn
      have hstack : (x.fulfilled.after .or).stack = x.stack := hs
      rw [run_append, ihl hs hx (by omega), Option.bind_some, run_cons_of_allows rfl,
        ihr (x := x.fulfilled.after .or) (settle_settle _) rfl (by rw [hstack]; omega)]
      exact congrArg some (Expectation.ext rfl (settle_settle _))

end LedgerSearch.Query
