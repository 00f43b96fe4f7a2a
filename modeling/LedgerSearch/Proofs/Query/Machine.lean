import LedgerSearch.Proofs.Query.Parser
import LedgerSearch.Proofs.Query.Position
import Mathlib

/-!
# `LedgerSearch.Proofs.Query.Machine`: the parser one step at a time

The functions of the parser say what a rule reads. They do not say what becomes of the two counters
in between, since a place is only seen before and behind a rule. Here the parser is run as a
machine that does one thing at a time: it takes a token, or counts one opening, or calls a function.
What is left to do is a list of such things (`Machine.todo`), and a call puts the body of the
function in front of it (`Routine.body`). A counter at zero cannot go down, and a machine that is
told to do so stops right there (`Machine.step`).

`Routine.stops_with_result` says that from every place within the limits, the machine comes to an
end with what the function reads, and that it never leaves the limits on the way. That it comes to
an end does not follow from the machine, which may call without end; the proof runs along the parser,
one lemma for each function.
-/

set_option autoImplicit false

namespace LedgerSearch.Query

/-! ### The machine -/

/-- The functions of the parser. -/
inductive Routine
  | disjunction
  | conjunction
  | negation
  | primary
  | group
deriving DecidableEq, Repr

/-- What the function reads at a place. -/
def Routine.read (query : String) (options : ParseOptions) (s : Cursor) :
    Routine → Except SyntaxError (Expr × Cursor)
  | disjunction => readDisjunction query options s
  | conjunction => readConjunction query options s
  | negation => readNegation query options s
  | primary => readPrimary query options s
  | group => readGroup query options s

/-- One thing to do. -/
inductive Op
  | call (routine : Routine)
  /-- Go around the loop over `OR`. -/
  | moreDisjuncts
  /-- Go around the loop over `AND`. -/
  | moreConjuncts
  /-- Take the next token. -/
  | advance
  /-- Count one more opening, and fail if that is one too many. -/
  | descend
  /-- Count one opening less. -/
  | ascend
  /-- Count one more parenthesis. -/
  | openGroup
  /-- Count one parenthesis less. -/
  | closeGroup
  /-- Fail unless a closing parenthesis comes next. -/
  | expectClose (otherwise : SyntaxError)
  /-- Give a value. -/
  | push (e : Expr)
  | buildNot
  | buildAnd
  | buildOr
  | raise (err : SyntaxError)
deriving DecidableEq, Repr

/-- What a function does at a place. -/
def Routine.body (query : String) (s : Cursor) : Routine → List Op
  | disjunction => [.call .conjunction, .moreDisjuncts]
  | conjunction => [.call .negation, .moreConjuncts]
  | negation =>
    if s.peek = .not then [.advance, .descend, .call .negation, .ascend, .buildNot]
    else [.call .primary]
  | primary =>
    match s.peek with
    | .term text | .phrase text => [.push (.term text), .advance]
    | .openParen => [.call .group]
    | .not => [.call .negation]
    | _ => [.raise (missingOperand query s)]
  | group =>
    [.advance, .descend, .openGroup, .call .disjunction,
      .expectClose ⟨.unclosedOpen, query, s.index, s.offset query⟩, .advance, .closeGroup, .ascend]

section
variable {query : String} {s : Cursor}

theorem Routine.body_primary_of_operand {text : String}
    (h : s.peek = .term text ∨ s.peek = .phrase text) :
    Routine.body query s .primary = [.push (.term text), .advance] := by
  rcases h with h | h <;> simp [body, h]

theorem Routine.body_primary_of_openParen (h : s.peek = .openParen) :
    Routine.body query s .primary = [.call .group] := by
  simp [body, h]

theorem Routine.body_primary_of_not (h : s.peek = .not) :
    Routine.body query s .primary = [.call .negation] := by
  simp [body, h]

theorem Routine.body_primary_of_none (h : s.peek.startsOperand = false) :
    Routine.body query s .primary = [.raise (missingOperand query s)] := by
  cases hpeek : s.peek <;> simp_all [body, Token.startsOperand]

end

/-- One turn of the loop over `OR`. -/
def disjunctsTurn (s : Cursor) : List Op :=
  if s.peek = .or then [.advance, .call .conjunction, .buildOr, .moreDisjuncts] else []

/-- One turn of the loop over `AND`. -/
def conjunctsTurn (query : String) (options : ParseOptions) (s : Cursor) : List Op :=
  if s.peek = .and then [.advance, .call .negation, .buildAnd, .moreConjuncts]
  else if s.peek.startsOperand then
    if options.implicitAnd then [.call .negation, .buildAnd, .moreConjuncts]
    else [.raise (s.fail query (.missingOperator s.peek.describe))]
  else []

/-- The parser between two steps. -/
structure Machine where
  place : Cursor
  /-- What is left to do, the next thing first. -/
  todo : List Op
  /-- The values that no operator has taken yet, the last one first. -/
  values : List Expr
deriving Repr

namespace Machine

/-- The machine that is about to call a function. -/
def start (routine : Routine) (s : Cursor) : Machine :=
  ⟨s, [.call routine], []⟩

/-- The next thing is done. There is no step where nothing is left to do, where an error has been
raised, and where a counter would go below zero. -/
def step (query : String) (options : ParseOptions) : Machine → Option Machine
  | ⟨s, .call routine :: todo, values⟩ => some ⟨s, routine.body query s ++ todo, values⟩
  | ⟨s, .moreDisjuncts :: todo, values⟩ => some ⟨s, disjunctsTurn s ++ todo, values⟩
  | ⟨s, .moreConjuncts :: todo, values⟩ => some ⟨s, conjunctsTurn query options s ++ todo, values⟩
  | ⟨s, .advance :: todo, values⟩ => some ⟨s.advance, todo, values⟩
  | ⟨s, .descend :: todo, values⟩ =>
    some ⟨s.withOpen s.groups (s.nesting + 1),
      if s.nesting + 1 > maxNesting then .raise (s.fail query (.tooDeep maxNesting)) :: todo
      else todo, values⟩
  | ⟨s, .ascend :: todo, values⟩ =>
    if s.nesting = 0 then none else some ⟨s.withOpen s.groups (s.nesting - 1), todo, values⟩
  | ⟨s, .openGroup :: todo, values⟩ => some ⟨s.withOpen (s.groups + 1) s.nesting, todo, values⟩
  | ⟨s, .closeGroup :: todo, values⟩ =>
    if s.groups = 0 then none else some ⟨s.withOpen (s.groups - 1) s.nesting, todo, values⟩
  | ⟨s, .expectClose otherwise :: todo, values⟩ =>
    some ⟨s, if s.peek = .closeParen then todo else .raise otherwise :: todo, values⟩
  | ⟨s, .push e :: todo, values⟩ => some ⟨s, todo, e :: values⟩
  | ⟨s, .buildNot :: todo, inner :: values⟩ => some ⟨s, todo, .not inner :: values⟩
  | ⟨s, .buildAnd :: todo, right :: left :: values⟩ => some ⟨s, todo, .and left right :: values⟩
  | ⟨s, .buildOr :: todo, right :: left :: values⟩ => some ⟨s, todo, .or left right :: values⟩
  | _ => none

end Machine

/-- The place is in the row, no more parentheses are open than there are openings, and no more
openings than the limit. -/
structure Cursor.Within (lexemes : List Lexeme) (limit : Nat) (s : Cursor) : Prop where
  isIn : s.IsIn lexemes
  index_le : s.index ≤ lexemes.length
  groups_le : s.groups ≤ s.nesting
  nesting_le : s.nesting ≤ limit

/-- Steps lead from one machine to the other, and wherever they lead, the limits are kept. An
opening is counted before it is refused, so one more than `maxNesting` may be open. -/
inductive Machine.Runs (query : String) (options : ParseOptions) (lexemes : List Lexeme) :
    Machine → Machine → Prop
  | here {m : Machine} (hm : m.place.Within lexemes (maxNesting + 1)) :
      Runs query options lexemes m m
  | step {m m₁ m' : Machine} (hm : m.place.Within lexemes (maxNesting + 1))
      (hstep : m.step query options = some m₁) (hrest : Runs query options lexemes m₁ m') :
      Runs query options lexemes m m'

/-! ### Places within the limits -/

namespace Cursor.Within

variable {lexemes : List Lexeme} {limit : Nat} {s s' : Cursor}

theorem succ (h : s.Within lexemes limit) : s.Within lexemes (limit + 1) :=
  { h with nesting_le := Nat.le_succ_of_le h.nesting_le }

theorem advance (h : s.Within lexemes limit) : s.advance.Within lexemes limit where
  isIn := h.isIn.advance
  index_le := by
    have hlength : s.rest.length = (lexemes.drop s.index).length := congrArg List.length h.isIn
    rw [List.length_drop] at hlength
    unfold Cursor.advance
    split
    · exact h.index_le
    · rename_i hrest
      rw [hrest, List.length_cons] at hlength
      show s.index + 1 ≤ lexemes.length
      omega
  groups_le := by simpa using h.groups_le
  nesting_le := by simpa using h.nesting_le

theorem withOpen (h : s.Within lexemes limit) {groups nesting limit' : Nat}
    (hgroups : groups ≤ nesting) (hnesting : nesting ≤ limit') :
    (s.withOpen groups nesting).Within lexemes limit' :=
  ⟨h.isIn.withOpen _ _, h.index_le, hgroups, hnesting⟩

theorem enterNegation (h : s.Within lexemes limit) : s.enterNegation.Within lexemes (limit + 1) :=
  h.advance.withOpen (Nat.le_succ_of_le h.groups_le) (Nat.succ_le_succ h.nesting_le)

/-- A place that the machine has come to, with the counters as they were. -/
theorem restored (h : s.Within lexemes limit) {limit' : Nat} (h' : s'.Within lexemes limit')
    (hnesting : s'.nesting = s.nesting) : s'.Within lexemes limit :=
  { h' with nesting_le := hnesting ▸ h.nesting_le }

theorem rest_length (h : s.Within lexemes limit) :
    s.rest.length = lexemes.length - s.index := by
  rw [h.isIn, List.length_drop]

theorem index_lt (h : s.Within lexemes limit) {limit' : Nat} (h' : s'.Within lexemes limit')
    (hlt : s'.rest.length < s.rest.length) : s.index < s'.index := by
  rw [h.rest_length, h'.rest_length] at hlt
  omega

end Cursor.Within

namespace Machine

section
variable {query : String} {options : ParseOptions} {lexemes : List Lexeme} {m m₁ m' : Machine}

theorem Runs.trans (h : Runs query options lexemes m m₁) (h' : Runs query options lexemes m₁ m') :
    Runs query options lexemes m m' := by
  induction h with
  | here _ => exact h'
  | step hm hstep _ ih => exact .step hm hstep (ih h')

theorem Runs.within (h : Runs query options lexemes m m') :
    m'.place.Within lexemes (maxNesting + 1) := by
  induction h with
  | here hm => exact hm
  | step _ _ _ ih => exact ih

/-! ### Coming to a result -/

/-- The machine comes to the result: to its value, with the rest of the list still to do, or to its
error. -/
def Computes (query : String) (options : ParseOptions) (lexemes : List Lexeme) (m : Machine)
    (todo : List Op) (values : List Expr) : Except SyntaxError (Expr × Cursor) → Prop
  | .ok (e, s') => Runs query options lexemes m ⟨s', todo, e :: values⟩
  | .error err => ∃ m', Runs query options lexemes m m' ∧ m'.todo.head? = some (.raise err)

variable {todo : List Op} {values : List Expr} {r : Except SyntaxError (Expr × Cursor)}

theorem Computes.step (hm : m.place.Within lexemes (maxNesting + 1))
    (hstep : m.step query options = some m₁)
    (h : Computes query options lexemes m₁ todo values r) :
    Computes query options lexemes m todo values r := by
  cases r with
  | ok p => exact Runs.step hm hstep h
  | error err =>
      obtain ⟨m', hruns, hraise⟩ := h
      exact ⟨m', .step hm hstep hruns, hraise⟩

/-- What follows a result goes on where the result leads to. -/
theorem Computes.bind {todo' : List Op} {values' : List Expr}
    {f : Expr × Cursor → Except SyntaxError (Expr × Cursor)}
    (h : Computes query options lexemes m todo' values' r)
    (hf : ∀ p, r = .ok p → p.2.Within lexemes (maxNesting + 1) →
      Computes query options lexemes ⟨p.2, todo', p.1 :: values'⟩ todo values (f p)) :
    Computes query options lexemes m todo values (r >>= f) := by
  cases r with
  | error err => exact h
  | ok p =>
      have hp := hf p rfl (Runs.within h)
      show Computes query options lexemes m todo values (f p)
      cases hresult : f p with
      | ok p' =>
          rw [hresult] at hp
          exact Runs.trans h hp
      | error err =>
          rw [hresult] at hp
          obtain ⟨m', hruns, hraise⟩ := hp
          exact ⟨m', Runs.trans h hruns, hraise⟩

theorem computes_raise {s : Cursor} {err : SyntaxError} {todo' : List Op} {values' : List Expr}
    (hs : s.Within lexemes (maxNesting + 1)) :
    Computes query options lexemes ⟨s, .raise err :: todo', values'⟩ todo values (.error err) :=
  ⟨_, .here hs, rfl⟩

/-- An opening is taken and counted before it is known whether it is one too many. -/
theorem computes_enter {s : Cursor} {todo' : List Op} {values' : List Expr}
    (hs : s.Within lexemes maxNesting)
    (h : ¬ s.nesting + 1 > maxNesting →
      Computes query options lexemes ⟨s.enterNegation, todo', values'⟩ todo values r) :
    Computes query options lexemes ⟨s, .advance :: .descend :: todo', values'⟩ todo values
      (if s.nesting + 1 > maxNesting then .error (s.advance.fail query (.tooDeep maxNesting))
        else r) := by
  refine .step hs.succ rfl (.step hs.advance.succ rfl ?_)
  rw [Cursor.nesting_advance, Cursor.groups_advance]
  by_cases hdeep : s.nesting + 1 > maxNesting
  · rw [if_pos hdeep, if_pos hdeep]
    exact computes_raise hs.enterNegation
  · rw [if_neg hdeep, if_neg hdeep]
    exact h hdeep

/-- A closing parenthesis is taken, and the two counters go down one after the other. -/
theorem runs_leaveGroup {s : Cursor} (hs : s.Within lexemes (maxNesting + 1))
    (hgroups : 0 < s.groups) :
    Runs query options lexemes ⟨s, .advance :: .closeGroup :: .ascend :: todo, values⟩
      ⟨s.leaveGroup, todo, values⟩ := by
  have hgroups_le := hs.groups_le
  have hnesting_le := hs.nesting_le
  have hclose : step query options ⟨s.advance, .closeGroup :: .ascend :: todo, values⟩
      = some ⟨s.advance.withOpen (s.groups - 1) s.nesting, .ascend :: todo, values⟩ := by
    rw [step, Cursor.groups_advance, Cursor.nesting_advance, if_neg (by omega)]
  have hascend : step query options
        ⟨s.advance.withOpen (s.groups - 1) s.nesting, .ascend :: todo, values⟩
      = some ⟨s.leaveGroup, todo, values⟩ :=
    if_neg (show ¬ s.nesting = 0 by omega)
  refine .step hs rfl ?_
  refine .step hs.advance hclose ?_
  refine .step (hs.advance.withOpen (by omega) hnesting_le) hascend ?_
  exact .here (hs.advance.withOpen (by omega) (by omega))

end

/-! ### The functions of the parser

Each comes to its result, by the recursion of the parser, whatever is left to do behind it. -/

section
variable {query : String} {options : ParseOptions} {lexemes : List Lexeme}

/-- A group comes to its result if the disjunction in it does. -/
theorem computes_readGroup_of {s : Cursor} (hs : s.Within lexemes maxNesting) (todo : List Op)
    (values : List Expr)
    (h : ∀ todo', s.enterGroup.Within lexemes maxNesting →
      Computes query options lexemes ⟨s.enterGroup, .call .disjunction :: todo', values⟩ todo' values
        (readDisjunction query options s.enterGroup)) :
    Computes query options lexemes ⟨s, .call .group :: todo, values⟩ todo values
      (readGroup query options s) := by
  refine .step hs.succ rfl ?_
  refine computes_enter hs fun hdeep => ?_
  have hin : s.enterGroup.Within lexemes maxNesting :=
    hs.advance.withOpen (Nat.succ_le_succ hs.groups_le) (Nat.le_of_not_gt hdeep)
  refine .step hs.enterNegation rfl ?_
  refine (h _ hin).bind ?_
  rintro ⟨inner, s₁⟩ h₁ hs₁
  have hparse := parses_of_readDisjunction hin.nesting_le h₁
  have hnesting : s₁.nesting = s.nesting + 1 := hparse.nesting_eq
  have hgroups : s₁.groups = s.groups + 1 := hparse.groups_eq
  have hgroups_le := hs.groups_le
  have hnesting_le := hs.nesting_le
  refine .step hs₁ rfl ?_
  dsimp only
  -- the disjunction has left the counters as they are inside of the group
  by_cases hclose : s₁.peek = .closeParen
  · rw [if_pos hclose, if_pos hclose]
    exact runs_leaveGroup hs₁ (by omega)
  · rw [if_neg hclose, if_neg hclose]
    exact computes_raise hs₁

mutual

theorem computes_readDisjunction {s : Cursor} (hs : s.Within lexemes maxNesting) (todo : List Op)
    (values : List Expr) :
    Computes query options lexemes ⟨s, .call .disjunction :: todo, values⟩ todo values
      (readDisjunction query options s) := by
  rw [readDisjunction_eq]
  refine .step hs.succ rfl ?_
  refine (computes_readConjunction hs (.moreDisjuncts :: todo) values).bind ?_
  rintro ⟨left, s₁⟩ h₁ hs₁
  have hlt : s₁.rest.length < s.rest.length := property_of_bare_eq_ok h₁
  have hnesting := (parses_of_readConjunction hs.nesting_le h₁).nesting_eq
  exact computes_readDisjuncts (hs.restored hs₁ hnesting) left todo values
termination_by (s.rest.length, 5)

theorem computes_readDisjuncts {s : Cursor} (hs : s.Within lexemes maxNesting) (left : Expr)
    (todo : List Op) (values : List Expr) :
    Computes query options lexemes ⟨s, .moreDisjuncts :: todo, left :: values⟩ todo values
      (readDisjuncts query options left s) := by
  rw [readDisjuncts_eq]
  -- the turn is decided by the token that comes next, as the equation of the loop is
  refine .step hs.succ rfl ?_
  rw [disjunctsTurn]
  by_cases hor : s.peek = .or
  · rw [if_pos hor, if_pos hor]
    have hlt₀ := Cursor.advance_lt (s := s) (by simp [hor])
    have hadv := hs.advance
    refine .step hs.succ rfl ?_
    refine (computes_readConjunction hadv (.buildOr :: .moreDisjuncts :: todo)
      (left :: values)).bind ?_
    rintro ⟨right, s₁⟩ h₁ hs₁
    have hlt : s₁.rest.length < s.advance.rest.length := property_of_bare_eq_ok h₁
    have hnesting := (parses_of_readConjunction hadv.nesting_le h₁).nesting_eq
    -- the operator takes its two operands, and the next turn begins with what it gives
    refine .step hs₁ rfl ?_
    exact computes_readDisjuncts (hadv.restored hs₁ hnesting) (.or left right) todo values
  · rw [if_neg hor, if_neg hor]
    exact .here hs.succ
termination_by (s.rest.length, 6)

theorem computes_readConjunction {s : Cursor} (hs : s.Within lexemes maxNesting) (todo : List Op)
    (values : List Expr) :
    Computes query options lexemes ⟨s, .call .conjunction :: todo, values⟩ todo values
      (readConjunction query options s) := by
  rw [readConjunction_eq]
  refine .step hs.succ rfl ?_
  refine (computes_readNegation hs (.moreConjuncts :: todo) values).bind ?_
  rintro ⟨left, s₁⟩ h₁ hs₁
  have hlt : s₁.rest.length < s.rest.length := property_of_bare_eq_ok h₁
  have hnesting := (parses_of_readNegation hs.nesting_le h₁).nesting_eq
  exact computes_readConjuncts (hs.restored hs₁ hnesting) left todo values
termination_by (s.rest.length, 4)

theorem computes_readConjuncts {s : Cursor} (hs : s.Within lexemes maxNesting) (left : Expr)
    (todo : List Op) (values : List Expr) :
    Computes query options lexemes ⟨s, .moreConjuncts :: todo, left :: values⟩ todo values
      (readConjuncts query options left s) := by
  rw [readConjuncts_eq]
  refine .step hs.succ rfl ?_
  rw [conjunctsTurn]
  by_cases hand : s.peek = .and
  · rw [if_pos hand, if_pos hand]
    have hlt₀ := Cursor.advance_lt (s := s) (by simp [hand])
    have hadv := hs.advance
    refine .step hs.succ rfl ?_
    refine (computes_readNegation hadv (.buildAnd :: .moreConjuncts :: todo)
      (left :: values)).bind ?_
    rintro ⟨right, s₁⟩ h₁ hs₁
    have hlt : s₁.rest.length < s.advance.rest.length := property_of_bare_eq_ok h₁
    have hnesting := (parses_of_readNegation hadv.nesting_le h₁).nesting_eq
    refine .step hs₁ rfl ?_
    exact computes_readConjuncts (hadv.restored hs₁ hnesting) (.and left right) todo values
  · rw [if_neg hand, if_neg hand]
    by_cases hop : s.peek.startsOperand
    · rw [if_pos hop, if_pos hop]
      by_cases himp : options.implicitAnd
      · rw [if_pos himp, if_pos himp]
        refine (computes_readNegation hs (.buildAnd :: .moreConjuncts :: todo)
          (left :: values)).bind ?_
        rintro ⟨right, s₁⟩ h₁ hs₁
        have hlt : s₁.rest.length < s.rest.length := property_of_bare_eq_ok h₁
        have hnesting := (parses_of_readNegation hs.nesting_le h₁).nesting_eq
        refine .step hs₁ rfl ?_
        exact computes_readConjuncts (hs.restored hs₁ hnesting) (.and left right) todo values
      · rw [if_neg himp, if_neg himp]
        exact computes_raise hs.succ
    · rw [if_neg hop, if_neg hop]
      exact .here hs.succ
termination_by (s.rest.length, 6)

theorem computes_readNegation {s : Cursor} (hs : s.Within lexemes maxNesting) (todo : List Op)
    (values : List Expr) :
    Computes query options lexemes ⟨s, .call .negation :: todo, values⟩ todo values
      (readNegation query options s) := by
  rw [readNegation_eq]
  refine .step hs.succ rfl ?_
  rw [Routine.body]
  by_cases hnot : s.peek = .not
  · rw [if_pos hnot, if_pos hnot]
    refine computes_enter hs fun hdeep => ?_
    have hin : s.enterNegation.Within lexemes maxNesting :=
      hs.advance.withOpen (Nat.le_succ_of_le hs.groups_le) (Nat.le_of_not_gt hdeep)
    have hlt : s.enterNegation.rest.length < s.rest.length :=
      Cursor.advance_lt (s := s) (by simp [hnot])
    refine (computes_readNegation hin (.ascend :: .buildNot :: todo) values).bind ?_
    rintro ⟨inner, s₁⟩ h₁ hs₁
    have hparse := parses_of_readNegation hin.nesting_le h₁
    have hnesting : s₁.nesting = s.nesting + 1 := hparse.nesting_eq
    have hgroups : s₁.groups = s.groups := hparse.groups_eq
    have hgroups_le := hs.groups_le
    have hnesting_le := hs.nesting_le
    -- the operand has put the counter back to where the `NOT` took it, so it is not zero
    have hout : s₁.leaveNegation.Within lexemes (maxNesting + 1) :=
      hs₁.withOpen (by omega) (by omega)
    refine .step hs₁ (if_neg (show ¬ s₁.nesting = 0 by omega)) ?_
    refine .step hout rfl ?_
    exact .here hout
  · rw [if_neg hnot, if_neg hnot]
    exact computes_readPrimary hs hnot todo values
termination_by (s.rest.length, 3)

theorem computes_readPrimary {s : Cursor} (hs : s.Within lexemes maxNesting) (hnot : s.peek ≠ .not)
    (todo : List Op) (values : List Expr) :
    Computes query options lexemes ⟨s, .call .primary :: todo, values⟩ todo values
      (readPrimary query options s) := by
  by_cases hop : s.peek.startsOperand
  · rcases Token.startsOperand_cases hop with ⟨text, htext⟩ | hgroup | hnot'
    · rw [readPrimary_of_operand query options htext]
      refine .step hs.succ rfl ?_
      rw [Routine.body_primary_of_operand htext]
      exact .step hs.succ rfl (.step hs.succ rfl (.here hs.advance.succ))
    · rw [readPrimary_of_openParen query options hgroup]
      refine .step hs.succ rfl ?_
      rw [Routine.body_primary_of_openParen hgroup]
      have hlt : s.enterGroup.rest.length < s.rest.length :=
        Cursor.advance_lt (s := s) (by simp [hgroup])
      exact computes_readGroup_of hs todo values fun todo' hin =>
        computes_readDisjunction hin todo' values
    · exact absurd hnot' hnot
  · have hnone : s.peek.startsOperand = false := Bool.not_eq_true _ ▸ hop
    rw [readPrimary_of_none query options hnone]
    refine .step hs.succ rfl ?_
    rw [Routine.body_primary_of_none hnone]
    exact computes_raise hs.succ
termination_by (s.rest.length, 2)

end

end

end Machine

/-! ### What a function leaves behind -/

namespace Routine

variable {query : String} {options : ParseOptions} {lexemes : List Lexeme} {s s' : Cursor} {e : Expr}

theorem computes (hs : s.Within lexemes maxNesting) (routine : Routine) (todo : List Op)
    (values : List Expr) :
    Machine.Computes query options lexemes ⟨s, .call routine :: todo, values⟩ todo values
      (routine.read query options s) := by
  cases routine with
  | disjunction => exact Machine.computes_readDisjunction hs todo values
  | conjunction => exact Machine.computes_readConjunction hs todo values
  | negation => exact Machine.computes_readNegation hs todo values
  | primary =>
      -- the rules never ask for a primary at a `NOT`, but the function can be called there
      by_cases hnot : s.peek = .not
      · rw [read, readPrimary_of_not query options hnot]
        refine .step hs.succ rfl ?_
        rw [body_primary_of_not hnot]
        exact Machine.computes_readNegation hs todo values
      · exact Machine.computes_readPrimary hs hnot todo values
  | group =>
      exact Machine.computes_readGroup_of hs todo values fun todo' hin =>
        Machine.computes_readDisjunction hin todo' values

/-- The place behind a result has fewer tokens ahead. -/
theorem rest_length_lt {routine : Routine} (h : routine.read query options s = .ok (e, s')) :
    s'.rest.length < s.rest.length := by
  cases routine with
  | group =>
      obtain ⟨-, s₁, h₁, rfl⟩ := exists_readDisjunction_of_readGroup h
      calc s₁.leaveGroup.rest.length
        _ ≤ s₁.rest.length := s₁.rest_length_advance_le
        _ < s.enterGroup.rest.length := property_of_bare_eq_ok h₁
        _ ≤ s.rest.length := s.rest_length_advance_le
  | _ => exact property_of_bare_eq_ok h

/-- The two counters are put back. -/
theorem counters_eq {routine : Routine} (hs : s.nesting ≤ maxNesting)
    (h : routine.read query options s = .ok (e, s')) :
    s'.groups = s.groups ∧ s'.nesting = s.nesting := by
  -- a sentence stands between the two places, and reading it has put the counters back
  have hparsed : ∀ {rule : Rule}, Parses options.implicitAnd rule s e s' →
      s'.groups = s.groups ∧ s'.nesting = s.nesting :=
    fun hparse => ⟨hparse.groups_eq, hparse.nesting_eq⟩
  cases routine with
  | disjunction => exact hparsed (parses_of_readDisjunction hs h)
  | conjunction => exact hparsed (parses_of_readConjunction hs h)
  | negation => exact hparsed (parses_of_readNegation hs h)
  | primary =>
      by_cases hnot : s.peek = .not
      · rw [read, readPrimary_of_not query options hnot] at h
        exact hparsed (parses_of_readNegation hs h)
      · exact hparsed (parses_of_readPrimary hs hnot h)
  | group =>
      -- a group need not begin with its parenthesis, so only what is in it is a sentence
      obtain ⟨hdeep, s₁, h₁, rfl⟩ := exists_readDisjunction_of_readGroup h
      have hparse := parses_of_readDisjunction (s := s.enterGroup) hdeep h₁
      exact ⟨congrArg (· - 1) hparse.groups_eq, congrArg (· - 1) hparse.nesting_eq⟩

end Routine

/-- **The parser moves on and keeps to its limits.** Start any function of the parser at a place in
the row, with no more parentheses open than openings and no more of those than `maxNesting`. Step
by step it comes to an end. No step leads out of the row, leaves more parentheses open than
openings, or counts more than one opening above `maxNesting`, and none takes a counter at zero
lower. The end is what the function reads: an error, or a value and a place at least one token
further on, with the two counters as they were. -/
theorem Routine.stops_with_result {lexemes : List Lexeme} {s : Cursor} (query : String)
    (options : ParseOptions) (routine : Routine) (hs : s.Within lexemes maxNesting) :
    ∃ m : Machine,
      Machine.Runs query options lexemes (.start routine s) m ∧
      m.step query options = none ∧
      match routine.read query options s with
      | .ok (e, s') =>
        m = ⟨s', [], [e]⟩ ∧ s.index < s'.index ∧ s'.index ≤ lexemes.length ∧
          s'.groups = s.groups ∧ s'.nesting = s.nesting
      | .error err => m.todo.head? = some (.raise err) := by
  have hcomputes : Machine.Computes query options lexemes (.start routine s) [] []
      (routine.read query options s) := computes hs routine [] []
  cases hread : routine.read query options s with
  | ok p =>
      obtain ⟨e, s'⟩ := p
      rw [hread] at hcomputes
      have hruns : Machine.Runs query options lexemes (.start routine s) ⟨s', [], [e]⟩ := hcomputes
      have hs' := hruns.within
      exact ⟨_, hruns, rfl, rfl, hs.index_lt hs' (rest_length_lt hread), hs'.index_le,
        counters_eq hs.nesting_le hread⟩
  | error err =>
      rw [hread] at hcomputes
      obtain ⟨m, hruns, hraise⟩ := hcomputes
      refine ⟨m, hruns, ?_, hraise⟩
      obtain ⟨place, todo, values⟩ := m
      cases todo with
      | nil => rfl
      | cons op todo =>
          cases hraise
          rfl

/-- The negation and the group in `NOT (a) b` are the last two openings that the limit leaves room
for. -/
theorem Routine.stops_with_result_at_limit :
    let query := "NOT (a) b"
    let s : Cursor := ⟨lex query, 0, none, 3, 254⟩
    let s' : Cursor := ⟨(lex query).drop 4, 4, some .closeParen, 3, 254⟩
    s.Within (lex query) maxNesting ∧
      Routine.negation.read query {} s = .ok (.not (.term "a"), s') ∧
      ∃ m : Machine,
        Machine.Runs query {} (lex query) (.start .negation s) m ∧ m.step query {} = none ∧
          m = ⟨s', [], [.not (.term "a")]⟩ := by
  intro query s s'
  have hs : s.Within (lex query) maxNesting := ⟨rfl, Nat.zero_le _, by decide, by decide⟩
  have hread : Routine.negation.read query {} s = .ok (.not (.term "a"), s') := by
    dsimp only [s']
    cbv
  obtain ⟨m, hruns, hend, hresult⟩ := Routine.stops_with_result query {} .negation hs
  rw [hread] at hresult
  exact ⟨hs, hread, m, hruns, hend, hresult.1⟩

end LedgerSearch.Query
