import LedgerSearch.Query.Parser

/-!
# `LedgerSearch.Proofs.Query.Reading`: the parser as equations on places

The functions of `LedgerSearch.Query.Parser` carry a proof in every result, which the recursion
needs and a statement about the result does not. This module restates each of them without that
proof, as one equation (`readDisjunction_eq` to `readPrimary_of_openParen`); later modules use these
equations and never unfold the parser. The function for a group asks for a place at an opening
parenthesis, and `readGroup` is the same function without that condition.

What the parser does to its place is stated as well: `Cursor.Reads s ts s'` says that taking the
tokens `ts` leads from `s` to `s'`. `Cursor.reads_negation_iff` and `Cursor.reads_group_iff` say how
the two counters are put back behind a negation and a group.
-/

set_option autoImplicit false

namespace LedgerSearch.Query

/-! ### The parser without its bounds

Each function of the parser returns the place behind what it read together with the proof that this
place is further on. The proofs are needed once, for the recursion; `bare` forgets them, and the
equations below are those of the definitions as binds of bare results. -/

/-- A result of the parser without the bound on the rest. -/
def bare {P : Cursor → Prop} (r : Except SyntaxError (Expr × { s : Cursor // P s })) :
    Except SyntaxError (Expr × Cursor) :=
  r.map fun p => (p.1, p.2.1)

theorem property_of_bare_eq_ok {P : Cursor → Prop}
    {r : Except SyntaxError (Expr × { s : Cursor // P s })} {e : Expr} {s : Cursor}
    (h : bare r = .ok (e, s)) : P s := by
  rcases r with err | ⟨e', s', hs'⟩
  · cases h
  · cases h
    exact hs'

/-- A bind that succeeds has a first part that succeeds. -/
theorem bind_eq_ok {α β : Type} {r : Except SyntaxError α} {f : α → Except SyntaxError β} {b : β}
    (h : r >>= f = .ok b) : ∃ a, r = .ok a ∧ f a = .ok b := by
  cases r with
  | error err => cases h
  | ok a => exact ⟨a, rfl, h⟩

/-- A bind that fails has a part that fails. -/
theorem bind_eq_error {α β : Type} {r : Except SyntaxError α} {f : α → Except SyntaxError β}
    {err : SyntaxError} (h : r >>= f = .error err) :
    r = .error err ∨ ∃ a, r = .ok a ∧ f a = .error err := by
  cases r with
  | error err' => cases h; exact .inl rfl
  | ok a => exact .inr ⟨a, rfl, h⟩

namespace Cursor

/-- The place with other counters. -/
def withOpen (s : Cursor) (groups nesting : Nat) : Cursor :=
  { s with groups, nesting }

/-- The place behind a `NOT`, inside its operand. -/
def enterNegation (s : Cursor) : Cursor :=
  s.advance.withOpen s.groups (s.nesting + 1)

/-- The place behind the operand of a `NOT`, outside of it. -/
def leaveNegation (s : Cursor) : Cursor :=
  s.withOpen s.groups (s.nesting - 1)

/-- The place behind an opening parenthesis, inside the group. -/
def enterGroup (s : Cursor) : Cursor :=
  s.advance.withOpen (s.groups + 1) (s.nesting + 1)

/-- The place behind a closing parenthesis, outside of the group. -/
def leaveGroup (s : Cursor) : Cursor :=
  s.advance.withOpen (s.groups - 1) (s.nesting - 1)

@[simp]
theorem groups_advance (s : Cursor) : s.advance.groups = s.groups := by
  unfold advance
  split <;> rfl

@[simp]
theorem nesting_advance (s : Cursor) : s.advance.nesting = s.nesting := by
  unfold advance
  split <;> rfl

theorem rest_length_advance_le (s : Cursor) : s.advance.rest.length ≤ s.rest.length := by
  unfold advance
  split
  · exact Nat.le_refl _
  · rename_i hrest
    rw [hrest]
    exact Nat.le_succ _

end Cursor

section
variable (query : String) (options : ParseOptions)

/-- `parseDisjunction` without the bound. -/
def readDisjunction (s : Cursor) : Except SyntaxError (Expr × Cursor) :=
  bare (parseDisjunction query options s)

/-- `parseDisjuncts` without the bound. -/
def readDisjuncts (left : Expr) (s : Cursor) : Except SyntaxError (Expr × Cursor) :=
  bare (parseDisjuncts query options left s)

/-- `parseConjunction` without the bound. -/
def readConjunction (s : Cursor) : Except SyntaxError (Expr × Cursor) :=
  bare (parseConjunction query options s)

/-- `parseConjuncts` without the bound. -/
def readConjuncts (left : Expr) (s : Cursor) : Except SyntaxError (Expr × Cursor) :=
  bare (parseConjuncts query options left s)

/-- `parseNegation` without the bound. -/
def readNegation (s : Cursor) : Except SyntaxError (Expr × Cursor) :=
  bare (parseNegation query options s)

/-- `parsePrimary` without the bound. -/
def readPrimary (s : Cursor) : Except SyntaxError (Expr × Cursor) :=
  bare (parsePrimary query options s)

theorem readDisjunction_eq (s : Cursor) :
    readDisjunction query options s
      = readConjunction query options s >>= fun p => readDisjuncts query options p.1 p.2 := by
  unfold readDisjunction readConjunction readDisjuncts
  rw [parseDisjunction]
  rcases parseConjunction query options s with err | ⟨left, s₁, h₁⟩
  · rfl
  · dsimp only
    rcases hr : parseDisjuncts query options left s₁ with err | ⟨e, s₂, h₂⟩ <;>
      exact (congrArg bare hr).symm

theorem readDisjuncts_eq (left : Expr) (s : Cursor) :
    readDisjuncts query options left s
      = if s.peek = .or then
          readConjunction query options s.advance >>= fun p =>
            readDisjuncts query options (.or left p.1) p.2
        else .ok (left, s) := by
  unfold readDisjuncts readConjunction
  rw [parseDisjuncts]
  by_cases h : s.peek = .or
  · rw [dif_pos h, if_pos h]
    rcases parseConjunction query options s.advance with err | ⟨right, s₁, h₁⟩
    · rfl
    · dsimp only
      rcases hr : parseDisjuncts query options (.or left right) s₁ with err | ⟨e, s₂, h₂⟩ <;>
        exact (congrArg bare hr).symm
  · rw [dif_neg h, if_neg h]
    rfl

theorem readConjunction_eq (s : Cursor) :
    readConjunction query options s
      = readNegation query options s >>= fun p => readConjuncts query options p.1 p.2 := by
  unfold readConjunction readNegation readConjuncts
  rw [parseConjunction]
  rcases parseNegation query options s with err | ⟨left, s₁, h₁⟩
  · rfl
  · dsimp only
    rcases hr : parseConjuncts query options left s₁ with err | ⟨e, s₂, h₂⟩ <;>
      exact (congrArg bare hr).symm

theorem readConjuncts_eq (left : Expr) (s : Cursor) :
    readConjuncts query options left s
      = if s.peek = .and then
          readNegation query options s.advance >>= fun p =>
            readConjuncts query options (.and left p.1) p.2
        else if s.peek.startsOperand then
          if options.implicitAnd then
            readNegation query options s >>= fun p =>
              readConjuncts query options (.and left p.1) p.2
          else .error (s.fail query (.missingOperator s.peek.describe))
        else .ok (left, s) := by
  unfold readConjuncts readNegation
  rw [parseConjuncts]
  by_cases h : s.peek = .and
  · rw [dif_pos h, if_pos h]
    rcases parseNegation query options s.advance with err | ⟨right, s₁, h₁⟩
    · rfl
    · dsimp only
      rcases hr : parseConjuncts query options (.and left right) s₁ with err | ⟨e, s₂, h₂⟩ <;>
        exact (congrArg bare hr).symm
  · rw [dif_neg h, if_neg h]
    by_cases hop : s.peek.startsOperand
    · rw [if_pos hop, if_pos hop]
      by_cases himp : options.implicitAnd
      · rw [if_pos himp, if_pos himp]
        rcases parseNegation query options s with err | ⟨right, s₁, h₁⟩
        · rfl
        · dsimp only
          rcases hr : parseConjuncts query options (.and left right) s₁ with err | ⟨e, s₂, h₂⟩ <;>
            exact (congrArg bare hr).symm
      · rw [if_neg himp, if_neg himp]
        rfl
    · rw [if_neg hop, if_neg hop]
      rfl

theorem readNegation_eq (s : Cursor) :
    readNegation query options s
      = if s.peek = .not then
          if s.nesting + 1 > maxNesting then
            .error (s.advance.fail query (.tooDeep maxNesting))
          else
            readNegation query options s.enterNegation >>= fun p =>
              .ok (.not p.1, p.2.leaveNegation)
        else readPrimary query options s := by
  unfold readNegation readPrimary
  rw [parseNegation]
  by_cases h : s.peek = .not
  · rw [dif_pos h, if_pos h]
    unfold Cursor.descend
    rw [Cursor.nesting_advance]
    by_cases hdeep : s.nesting + 1 > maxNesting
    · rw [if_pos hdeep, if_pos hdeep]
      rfl
    · rw [if_neg hdeep, if_neg hdeep]
      -- `descend` raises one counter, `enterNegation` sets both; the other one is unchanged
      have henter : s.enterNegation = { s.advance with nesting := s.nesting + 1 } := by
        unfold Cursor.enterNegation Cursor.withOpen
        rw [← Cursor.groups_advance]
      rw [henter]
      dsimp only
      rcases parseNegation query options { s.advance with nesting := s.nesting + 1 } with
        err | ⟨e, s₁, h₁⟩ <;> rfl
  · rw [dif_neg h, if_neg h]

theorem readPrimary_of_operand {s : Cursor} {text : String}
    (h : s.peek = .term text ∨ s.peek = .phrase text) :
    readPrimary query options s = .ok (.term text, s.advance) := by
  unfold readPrimary
  rw [parsePrimary]
  rcases h with h | h <;> split <;> simp_all [bare, Except.map]

theorem readPrimary_of_none {s : Cursor} (h : s.peek.startsOperand = false) :
    readPrimary query options s = .error (missingOperand query s) := by
  unfold readPrimary
  rw [parsePrimary]
  split <;> simp_all [bare, Except.map, Token.startsOperand]

theorem readPrimary_of_not {s : Cursor} (h : s.peek = .not) :
    readPrimary query options s = readNegation query options s := by
  unfold readPrimary readNegation
  rw [parsePrimary]
  split <;> first | rfl | (exfalso; simp_all)

/-- `parseGroup` without the bound, and without the opening parenthesis that it asks for: at any
other token it does the same, only that a primary does not call for it there. -/
def readGroup (s : Cursor) : Except SyntaxError (Expr × Cursor) :=
  if s.nesting + 1 > maxNesting then .error (s.advance.fail query (.tooDeep maxNesting))
  else
    readDisjunction query options s.enterGroup >>= fun p =>
      if p.2.peek = .closeParen then .ok (p.1, p.2.leaveGroup)
      else .error ⟨.unclosedOpen, query, s.index, s.offset query⟩

theorem readGroup_eq {s : Cursor} (h : s.peek = .openParen) :
    readGroup query options s = bare (parseGroup query options s h) := by
  unfold readGroup
  rw [parseGroup]
  unfold Cursor.descend readDisjunction
  rw [Cursor.nesting_advance]
  by_cases hdeep : s.nesting + 1 > maxNesting
  · rw [if_pos hdeep, if_pos hdeep]
    rfl
  · rw [if_neg hdeep, if_neg hdeep]
    have henter : s.enterGroup
        = { s.advance with groups := s.advance.groups + 1, nesting := s.nesting + 1 } := by
      unfold Cursor.enterGroup Cursor.withOpen
      rw [Cursor.groups_advance]
    rw [henter]
    dsimp only
    rcases parseDisjunction query options
        { s.advance with groups := s.advance.groups + 1, nesting := s.nesting + 1 } with
      err | ⟨e, s₁, h₁⟩
    · rfl
    · show ite _ _ _ = bare (dite _ _ _)
      by_cases hclose : s₁.peek = .closeParen
      · rw [dif_pos hclose]
        exact if_pos hclose
      · rw [dif_neg hclose]
        exact if_neg hclose

theorem readPrimary_of_openParen {s : Cursor} (h : s.peek = .openParen) :
    readPrimary query options s
      = if s.nesting + 1 > maxNesting then
          .error (s.advance.fail query (.tooDeep maxNesting))
        else
          readDisjunction query options s.enterGroup >>= fun p =>
            if p.2.peek = .closeParen then .ok (p.1, p.2.leaveGroup)
            else .error ⟨.unclosedOpen, query, s.index, s.offset query⟩ := by
  -- the match keeps the equation `s.peek = .openParen`, so it is split and not rewritten
  have hgroup : readPrimary query options s = bare (parseGroup query options s h) := by
    unfold readPrimary
    rw [parsePrimary]
    split <;> first | rfl | (exfalso; simp_all)
  exact hgroup.trans (readGroup_eq query options h).symm

variable {query options}

/-- What is read in a group is the disjunction in it and a closing parenthesis. -/
theorem exists_readDisjunction_of_readGroup {s s' : Cursor} {e : Expr}
    (h : readGroup query options s = .ok (e, s')) :
    s.nesting + 1 ≤ maxNesting ∧
      ∃ s₁, readDisjunction query options s.enterGroup = .ok (e, s₁) ∧ s₁.leaveGroup = s' := by
  unfold readGroup at h
  by_cases hdeep : s.nesting + 1 > maxNesting
  · rw [if_pos hdeep] at h
    cases h
  · rw [if_neg hdeep] at h
    obtain ⟨⟨inner, s₁⟩, h₁, h₂⟩ := bind_eq_ok h
    dsimp only at h₂
    by_cases hclose : s₁.peek = .closeParen
    · rw [if_pos hclose] at h₂
      cases h₂
      exact ⟨Nat.le_of_not_gt hdeep, s₁, h₁, rfl⟩
    · rw [if_neg hclose] at h₂
      cases h₂

end

/-! ### Reading tokens

`s.Reads ts s'` is what the parser does to its place when it takes the tokens `ts`. The counters
play no part in it, so a stretch that is read inside a group is read in the same way outside. -/

namespace Cursor

/-- Taking the tokens one after the other leads from the first place to the second. -/
def Reads : Cursor → List Token → Cursor → Prop
  | s, [], s' => s' = s
  | s, t :: ts, s' => s.rest ≠ [] ∧ s.peek = t ∧ s.advance.Reads ts s'

theorem rest_ne_nil {s : Cursor} (h : s.peek ≠ .endOfQuery) : s.rest ≠ [] := by
  intro hrest
  unfold peek at h
  rw [hrest] at h
  exact h rfl

theorem index_advance {s : Cursor} (h : s.rest ≠ []) : s.advance.index = s.index + 1 := by
  unfold advance
  cases hrest : s.rest with
  | nil => exact absurd hrest h
  | cons lexeme rest => rfl

theorem last_advance {s : Cursor} (h : s.rest ≠ []) : s.advance.last = some s.peek := by
  unfold advance peek
  cases hrest : s.rest with
  | nil => exact absurd hrest h
  | cons lexeme rest => rfl

theorem map_token_rest {s : Cursor} (h : s.rest ≠ []) :
    s.rest.map (·.token) = s.peek :: s.advance.rest.map (·.token) := by
  unfold peek advance
  cases hrest : s.rest with
  | nil => exact absurd hrest h
  | cons lexeme rest => rfl

@[simp]
theorem advance_withOpen (s : Cursor) (groups nesting : Nat) :
    (s.withOpen groups nesting).advance = s.advance.withOpen groups nesting := by
  obtain ⟨rest, index, last, _, _⟩ := s
  cases rest <;> rfl

variable {s s₁ s' : Cursor} {ts us : List Token} {t : Token}

theorem reads_append :
    s.Reads (ts ++ us) s' ↔ ∃ s₁, s.Reads ts s₁ ∧ s₁.Reads us s' := by
  induction ts generalizing s with
  | nil =>
      constructor
      · intro h
        exact ⟨s, rfl, h⟩
      · rintro ⟨s₁, rfl, h⟩
        exact h
  | cons t ts ih =>
      -- both sides take `t` first, which the place behind it has in common
      constructor
      · rintro ⟨hrest, ht, h⟩
        obtain ⟨s₁, h₁, h₂⟩ := ih.mp h
        exact ⟨s₁, ⟨hrest, ht, h₁⟩, h₂⟩
      · rintro ⟨s₁, ⟨hrest, ht, h₁⟩, h₂⟩
        exact ⟨hrest, ht, ih.mpr ⟨s₁, h₁, h₂⟩⟩

theorem Reads.append (h₁ : s.Reads ts s₁) (h₂ : s₁.Reads us s') : s.Reads (ts ++ us) s' :=
  reads_append.mpr ⟨s₁, h₁, h₂⟩

theorem Reads.cons (hs : s.peek = t) (ht : t ≠ .endOfQuery) (h : s.advance.Reads ts s') :
    s.Reads (t :: ts) s' :=
  ⟨rest_ne_nil (hs ▸ ht), hs, h⟩

theorem reads_peek (h : s.peek ≠ .endOfQuery) : s.Reads [s.peek] s.advance :=
  Reads.cons rfl h rfl

theorem Reads.map_token (h : s.Reads ts s') :
    s.rest.map (·.token) = ts ++ s'.rest.map (·.token) := by
  induction ts generalizing s with
  | nil => rw [h, List.nil_append]
  | cons t ts ih =>
      obtain ⟨hrest, rfl, h⟩ := h
      rw [map_token_rest hrest, ih h, List.cons_append]

theorem Reads.index_eq (h : s.Reads ts s') : s'.index = s.index + ts.length := by
  induction ts generalizing s with
  | nil => rw [h]; rfl
  | cons t ts ih =>
      obtain ⟨hrest, -, h⟩ := h
      rw [ih h, index_advance hrest, List.length_cons]
      omega

theorem Reads.last_eq (h : s.Reads ts s') : s'.last = ts.getLast?.or s.last := by
  induction ts generalizing s with
  | nil => rw [h]; rfl
  | cons t ts ih =>
      obtain ⟨hrest, rfl, h⟩ := h
      rw [ih h, last_advance hrest, List.getLast?_cons, Option.or_some, Option.some_or]

theorem Reads.groups_eq (h : s.Reads ts s') : s'.groups = s.groups := by
  induction ts generalizing s with
  | nil => rw [h]
  | cons t ts ih => rw [ih h.2.2, groups_advance]

theorem Reads.nesting_eq (h : s.Reads ts s') : s'.nesting = s.nesting := by
  induction ts generalizing s with
  | nil => rw [h]
  | cons t ts ih => rw [ih h.2.2, nesting_advance]

theorem Reads.withOpen (h : s.Reads ts s') (groups nesting : Nat) :
    (s.withOpen groups nesting).Reads ts (s'.withOpen groups nesting) := by
  induction ts generalizing s with
  | nil => rw [h]; rfl
  | cons t ts ih =>
      obtain ⟨hrest, ht, h⟩ := h
      refine ⟨hrest, ht, ?_⟩
      rw [advance_withOpen]
      exact ih h

theorem withOpen_eq_self {groups nesting : Nat} (hg : s.groups = groups)
    (hn : s.nesting = nesting) : s.withOpen groups nesting = s := by
  subst hg hn
  rfl

/-- A negation is read by reading its operand inside of it. -/
theorem reads_negation_iff (hs : s.peek = .not) :
    s.Reads (.not :: ts) s' ↔
      ∃ s₁, s.enterNegation.Reads ts s₁ ∧ s₁.leaveNegation = s' := by
  constructor
  · rintro ⟨-, -, h⟩
    have hg := h.groups_eq.trans s.groups_advance
    have hn := h.nesting_eq.trans s.nesting_advance
    -- the operand, read with one more open
    exact ⟨_, h.withOpen s.groups (s.nesting + 1), withOpen_eq_self hg hn⟩
  · rintro ⟨s₁, h, rfl⟩
    have hg : s₁.groups = s.groups := h.groups_eq
    have hn : s₁.nesting = s.nesting + 1 := h.nesting_eq
    refine Reads.cons hs Token.noConfusion ?_
    have h' := h.withOpen s.groups s.nesting
    rw [leaveNegation, hg, hn, Nat.add_sub_cancel]
    rwa [show s.enterNegation.withOpen s.groups s.nesting = s.advance from
      withOpen_eq_self s.groups_advance s.nesting_advance] at h'

/-- A group is read by reading what it holds inside of it. -/
theorem reads_group_iff (hs : s.peek = .openParen) :
    s.Reads (.openParen :: (ts ++ [.closeParen])) s' ↔
      ∃ s₁, s.enterGroup.Reads ts s₁ ∧ s₁.peek = .closeParen ∧ s₁.leaveGroup = s' := by
  constructor
  · rintro ⟨-, -, h⟩
    obtain ⟨s₂, hin, -, hclose, rfl⟩ := reads_append.mp h
    have hg := hin.groups_eq.trans s.groups_advance
    have hn := hin.nesting_eq.trans s.nesting_advance
    refine ⟨_, hin.withOpen (s.groups + 1) (s.nesting + 1), hclose, ?_⟩
    rw [leaveGroup, advance_withOpen]
    exact withOpen_eq_self (s₂.groups_advance.trans hg) (s₂.nesting_advance.trans hn)
  · rintro ⟨s₁, h, hclose, rfl⟩
    have hg : s₁.groups = s.groups + 1 := h.groups_eq
    have hn : s₁.nesting = s.nesting + 1 := h.nesting_eq
    refine Reads.cons hs Token.noConfusion ?_
    have h' := h.withOpen s.groups s.nesting
    rw [show s.enterGroup.withOpen s.groups s.nesting = s.advance from
      withOpen_eq_self s.groups_advance s.nesting_advance] at h'
    refine h'.append (Reads.cons hclose Token.noConfusion ?_)
    rw [advance_withOpen, leaveGroup, hg, hn, Nat.add_sub_cancel, Nat.add_sub_cancel]
    rfl

/-! ### The tokens in front of the end of the query -/

theorem takeWhile_append_of_notMem (hts : Token.endOfQuery ∉ ts) :
    (ts ++ us).takeWhile (· ≠ .endOfQuery) = ts ++ us.takeWhile (· ≠ .endOfQuery) := by
  refine List.takeWhile_append_of_pos fun t ht => decide_eq_true fun heq => ?_
  exact hts (heq ▸ ht)

/-- The tokens that come next, up to the end of the query. -/
def ahead (s : Cursor) : List Token :=
  (s.rest.map (·.token)).takeWhile (· ≠ .endOfQuery)

theorem ahead_eq_nil_iff : s.ahead = [] ↔ s.peek = .endOfQuery := by
  unfold ahead peek
  cases s.rest with
  | nil => simp
  | cons lexeme rest => simp [List.takeWhile_cons]

theorem Reads.ahead_eq (h : s.Reads ts s') (hts : .endOfQuery ∉ ts) :
    s.ahead = ts ++ s'.ahead := by
  unfold ahead
  rw [h.map_token, takeWhile_append_of_notMem hts]

theorem ahead_eq_cons (h : s.peek ≠ .endOfQuery) : s.ahead = s.peek :: s.advance.ahead :=
  (reads_peek h).ahead_eq (by simpa using h.symm)

/-- The tokens in front of the end of the query can all be read, and then the end comes next. -/
theorem reads_ahead (s : Cursor) : ∃ s', s.Reads s.ahead s' ∧ s'.peek = .endOfQuery := by
  obtain ⟨rest, index, last, groups, nesting⟩ := s
  induction rest generalizing index last with
  | nil => exact ⟨_, rfl, rfl⟩
  | cons lexeme rest ih =>
      -- an end of the query in the middle of the row stops the reading there
      by_cases hend : lexeme.token = .endOfQuery
      · have hpeek : peek ⟨lexeme :: rest, index, last, groups, nesting⟩ = .endOfQuery := hend
        refine ⟨_, ?_, hpeek⟩
        rw [ahead_eq_nil_iff.mpr hpeek]
        rfl
      · obtain ⟨s', hreads, hpeek⟩ := ih (index + 1) (some lexeme.token)
        refine ⟨s', ?_, hpeek⟩
        have hahead : ahead ⟨lexeme :: rest, index, last, groups, nesting⟩
            = lexeme.token :: ahead ⟨rest, index + 1, some lexeme.token, groups, nesting⟩ := by
          unfold ahead
          rw [List.map_cons, List.takeWhile_cons, if_pos (decide_eq_true hend)]
        rw [hahead]
        exact Reads.cons rfl hend hreads

end Cursor

end LedgerSearch.Query
