import LedgerSearch.Proofs.Query.Failure

/-!
# `LedgerSearch.Proofs.Query.Faults`: an error names the first token that is at fault

Whoever mistypes a query is told the place. To reject the query any place would do, but the parser
points at the first token that cannot stand where it stands, whatever follows it.
`parseTokens_error_earliest` is the principal theorem: the tokens before that place can still become
a query (`CanContinue`), and with the token they cannot (`IsDeadEnd`).

The proof compares the parser with `Expectation.run`, which reads the same tokens without building
a tree. `LedgerSearch.Proofs.Query.Failure` states that where the parser fails, the run has come to
the same place. Whatever the grounds of the error are, there the next token may not come, or the
query ends while an operand is missing or a parenthesis is open (`StopsAt`,
`stopsAt_of_parseTokens`). The rest follows from that alone: a row that the run follows to the end
of a query leaves the parser no place to fail at, so it is accepted (`exists_parseTokens_of_run`),
and what the run does not follow is not a sentence (`run_ahead_ne_none`).

The index of an error is that of the token at fault, except for a query that is nested too deeply.
There it is the index behind the opening token, which the parser has taken already.
-/

set_option autoImplicit false

namespace LedgerSearch.Query

/-! ### What an error says of its place -/

/-- The next token may not come. -/
def Expectation.Refuses (implicitAnd : Bool) (x : Expectation) (ahead : List Token) : Prop :=
  ∃ t ts, ahead = t :: ts ∧ x.allows implicitAnd t = false

/-- The error is due to what comes next where `x` is expected. The place has the index `index`, and
up to the end of the query the tokens `ahead` follow. -/
def Expectation.Blames (implicitAnd : Bool) (x : Expectation) (index : Nat) (ahead : List Token)
    (err : SyntaxError) : Prop :=
  match err.kind with
  | .unexpectedToken _ | .unmatchedClose | .missingOperator _ =>
    err.tokenIndex = index ∧ x.Refuses implicitAnd ahead
  | .tooDeep _ => err.tokenIndex = index + 1 ∧ x.Refuses implicitAnd ahead
  | .unexpectedEnd _ => err.tokenIndex = index ∧ ahead = [] ∧ x.operand = true
  | .unclosedOpen => ahead = [] ∧ x.stack ≠ []

/-- From `s` on, where `x` is expected, the tokens can be followed up to a place that the error is
due to. -/
def StopsAt (implicitAnd : Bool) (x : Expectation) (s : Cursor) (err : SyntaxError) : Prop :=
  ∃ ts us y, s.ahead = ts ++ us ∧ x.run implicitAnd ts = some y ∧
    y.Blames implicitAnd (s.index + ts.length) us err

section
variable {implicitAnd : Bool} {x y : Expectation} {s s₁ : Cursor} {err : SyntaxError}

/-- An error at the place itself. -/
theorem Expectation.Blames.stopsAt (h : x.Blames implicitAnd s.index s.ahead err) :
    StopsAt implicitAnd x s err :=
  ⟨[], s.ahead, x, rfl, rfl, h⟩

/-- An error further on, behind tokens that may come. -/
theorem StopsAt.of_leadsTo {ts : List Token} (hleads : s.LeadsTo ts s₁)
    (hrun : x.run implicitAnd ts = some y) (h : StopsAt implicitAnd y s₁ err) :
    StopsAt implicitAnd x s err := by
  obtain ⟨us, vs, z, hahead, hz, hblames⟩ := h
  refine ⟨ts ++ us, vs, z, ?_, ?_, ?_⟩
  · rw [hleads.ahead_eq, hahead, List.append_assoc]
  · rw [Expectation.run_append, hrun]
    exact hz
  · rwa [List.length_append, ← Nat.add_assoc, ← hleads.index_eq]

end

/-! ### The parser stops where a token is refused -/

section
variable {query : String} {options : ParseOptions} {implicitAnd : Bool} {x : Expectation}
  {s : Cursor} {err : SyntaxError}

theorem Expectation.refuses_ahead (hend : s.peek ≠ .endOfQuery)
    (hx : x.allows implicitAnd s.peek = false) : x.Refuses implicitAnd s.ahead :=
  ⟨_, _, Cursor.ahead_eq_cons hend, hx⟩

/-- What the parser says where it misses an operand. -/
theorem stopsAt_missingOperand (implicitAnd : Bool) (hx : x.operand = true)
    (hs : s.peek.startsOperand = false) :
    StopsAt implicitAnd x s (missingOperand query s) := by
  refine Expectation.Blames.stopsAt ?_
  have hrefuses : s.peek ≠ .endOfQuery → x.Refuses implicitAnd s.ahead := fun hend => by
    refine Expectation.refuses_ahead hend ?_
    generalize s.peek = t at hs hend
    cases t <;> simp_all [Expectation.allows, Token.startsOperand]
  unfold missingOperand
  cases hpeek : s.peek with
  | endOfQuery => exact ⟨rfl, Cursor.ahead_eq_nil_iff.mpr hpeek, hx⟩
  | and | or => exact ⟨rfl, hrefuses (by simp [hpeek])⟩
  | closeParen =>
      dsimp only
      -- two wordings, one place
      split <;> exact ⟨rfl, hrefuses (by simp [hpeek])⟩
  | term | phrase | not | openParen =>
      rw [hpeek] at hs
      cases hs

/-- The grounds of an error are that a token is refused or missing, or that something is left
open. -/
theorem Expectation.Raises.stopsAt (h : x.Raises query implicitAnd s err) :
    StopsAt implicitAnd x s err := by
  cases h with
  | missingOperand hx _ hs => exact stopsAt_missingOperand implicitAnd hx hs
  | missingOperator hx himp hs =>
      have hend : s.peek ≠ .endOfQuery := fun hend => by rw [hend] at hs; cases hs
      refine Expectation.Blames.stopsAt ⟨rfl, Expectation.refuses_ahead hend ?_⟩
      rcases Token.startsOperand_cases hs with ⟨text, htext | htext⟩ | hpeek | hpeek <;>
        simp_all [Expectation.allows]
  | unmatchedClose hx hstack hs =>
      refine Expectation.Blames.stopsAt ⟨rfl, Expectation.refuses_ahead (by simp [hs]) ?_⟩
      simp [hs, Expectation.allows, hstack]
  | tooDeep hx hstack hs =>
      have hend : s.peek ≠ .endOfQuery := by rcases hs with hs | hs <;> simp [hs]
      refine Expectation.Blames.stopsAt ⟨Cursor.index_advance (Cursor.rest_ne_nil hend),
        Expectation.refuses_ahead hend ?_⟩
      rcases hs with hs | hs <;> simp [hs, Expectation.allows, hstack]
  | @unclosedOpen ts e hx hs inner hn =>
      -- the parenthesis and what follows it may come, but not the end of the query behind them
      have hopen : x.allows implicitAnd .openParen = true :=
        Expectation.allows_opener (.inr rfl) hx (by omega)
      have hrun : x.run implicitAnd (.openParen :: ts) = some (x.after .openParen).fulfilled := by
        rw [Expectation.run_cons_of_allows hopen]
        exact inner.run_eq rfl rfl hn
      exact ⟨.openParen :: ts, [], _, by rw [hs, List.append_nil], hrun, rfl,
        List.cons_ne_nil _ _⟩

/-- **Where the parser fails, a token is refused or missing.** -/
theorem stopsAt_of_parseTokens {lexemes : List Lexeme}
    (h : parseTokens query lexemes options = .error err) :
    StopsAt options.implicitAnd .start (Cursor.start lexemes) err := by
  obtain ⟨ts, y, s, hleads, hrun, hraises⟩ := failsAt_of_parseTokens h
  exact hraises.stopsAt.of_leadsTo hleads hrun

end

/-! ### Rows that can still become a query -/

/-- With some more tokens and the end of the query behind them, the parser accepts the row. -/
def CanContinue (options : ParseOptions) (ts : List Token) : Prop :=
  ∃ us, .endOfQuery ∉ us ∧ ∀ query lexemes,
    lexemes.map (·.token) = ts ++ us ++ [.endOfQuery] →
      ∃ e, parseTokens query lexemes options = .ok e

/-- The parser accepts no row that begins with these tokens. -/
def IsDeadEnd (options : ParseOptions) (ts : List Token) : Prop :=
  ∀ query lexemes e, ts <+: lexemes.map (·.token) → parseTokens query lexemes options ≠ .ok e

section
variable {query : String} {options : ParseOptions} {lexemes : List Lexeme} {ts : List Token}

open Expectation in
/-- The parser accepts what can be followed to the end of a query: where it fails, something is
refused, missing or left open. -/
theorem exists_parseTokens_of_run
    (h : start.run options.implicitAnd (Cursor.start lexemes).ahead = some start.fulfilled) :
    ∃ e, parseTokens query lexemes options = .ok e := by
  cases hparse : parseTokens query lexemes options with
  | ok e => exact ⟨e, rfl⟩
  | error err =>
      exfalso
      obtain ⟨ts, us, y, hahead, hrun, hblames⟩ := stopsAt_of_parseTokens hparse
      rw [hahead, run_append, hrun, Option.bind_some] at h
      have hrefused : ¬ y.Refuses options.implicitAnd us := by
        rintro ⟨t, vs, rfl, ht⟩
        rw [run_cons_of_not_allows ht] at h
        cases h
      have hend : us = [] → y = start.fulfilled := by
        rintro rfl
        exact Option.some.inj h
      unfold Blames at hblames
      split at hblames
      · exact hrefused hblames.2
      · exact hrefused hblames.2
      · exact hrefused hblames.2
      · exact hrefused hblames.2
      · obtain ⟨-, hnil, hoperand⟩ := hblames
        rw [hend hnil] at hoperand
        cases hoperand
      · obtain ⟨hnil, hstack⟩ := hblames
        rw [hend hnil] at hstack
        exact hstack rfl

/-- What the parser accepts can be followed. -/
theorem run_ahead_ne_none {e : Expr} (h : parseTokens query lexemes options = .ok e) :
    Expectation.start.run options.implicitAnd (Cursor.start lexemes).ahead ≠ none := by
  rcases parseTokens_eq_ok_iff.mp h with ⟨hempty, -⟩ | ⟨hts, hn⟩
  · rw [hempty]
    exact Option.some_ne_none _
  · rw [hts.run_eq (x := .start) rfl rfl
      ((Nat.zero_add _).trans_le (nestsWithin_iff.mp hn))]
    exact Option.some_ne_none _

/-- A row that can be followed can become a query. -/
theorem canContinue_of_run {y : Expectation}
    (h : Expectation.start.run options.implicitAnd ts = some y) : CanContinue options ts := by
  obtain ⟨us, hus⟩ := y.exists_run options.implicitAnd
  have hrun : Expectation.start.run options.implicitAnd (ts ++ us)
      = some Expectation.start.fulfilled := by
    rw [Expectation.run_append, h, Option.bind_some, hus]
  refine ⟨us, Expectation.endOfQuery_notMem_of_run hus, fun query lexemes hl => ?_⟩
  refine exists_parseTokens_of_run ?_
  rwa [ahead_start (Expectation.endOfQuery_notMem_of_run hrun) hl]

/-- A row in which a token is refused cannot. -/
theorem isDeadEnd_of_run (hts : .endOfQuery ∉ ts)
    (h : Expectation.start.run options.implicitAnd ts = none) : IsDeadEnd options ts := by
  rintro query lexemes e ⟨us, hus⟩ hparse
  have hahead : (Cursor.start lexemes).ahead = ts ++ us.takeWhile (· ≠ .endOfQuery) := by
    show (lexemes.map (·.token)).takeWhile (· ≠ .endOfQuery) = _
    rw [← hus, Cursor.takeWhile_append_of_notMem hts]
  refine run_ahead_ne_none hparse ?_
  rw [hahead, Expectation.run_append, h]
  rfl

open Expectation in
/-- Where a token is refused, the tokens before it can become a query and with it they cannot. -/
theorem Expectation.Refuses.earliest {us : List Token} {y : Expectation}
    (hts : .endOfQuery ∉ ts ++ us) (hrun : start.run options.implicitAnd ts = some y)
    (h : y.Refuses options.implicitAnd us) :
    ts.length < (ts ++ us).length ∧ CanContinue options ((ts ++ us).take ts.length) ∧
      IsDeadEnd options ((ts ++ us).take (ts.length + 1)) := by
  obtain ⟨t, vs, rfl, ht⟩ := h
  have htake : (ts ++ t :: vs).take (ts.length + 1) = ts ++ [t] := by
    rw [List.take_length_add_append]
    rfl
  refine ⟨by simp, ?_, ?_⟩
  · rw [List.take_left]
    exact canContinue_of_run hrun
  · refine isDeadEnd_of_run (fun hmem => hts (List.mem_of_mem_take hmem)) ?_
    rw [htake, run_append, hrun, Option.bind_some, run_cons_of_not_allows ht]

/-- **An error names the first token that is at fault.** Take a row of tokens with the end of the
query behind it that the parser does not accept.

- Where a token is unexpected, closes nothing or follows an operand without an operator, the tokens
  before it can become a query, and together with it they cannot, whatever comes next.
- Where the query ends too early or leaves a parenthesis open, all its tokens can become a query.
- Where it is nested too deeply, the same is said of the token that opens one too many, and the
  error lies just behind it. -/
theorem parseTokens_error_earliest {err : SyntaxError} (hts : .endOfQuery ∉ ts)
    (hl : lexemes.map (·.token) = ts ++ [.endOfQuery])
    (h : parseTokens query lexemes options = .error err) :
    match err.kind with
    | .unexpectedToken _ | .unmatchedClose | .missingOperator _ =>
      err.tokenIndex < ts.length ∧ CanContinue options (ts.take err.tokenIndex) ∧
        IsDeadEnd options (ts.take (err.tokenIndex + 1))
    | .unexpectedEnd _ => err.tokenIndex = ts.length ∧ CanContinue options ts
    | .unclosedOpen => CanContinue options ts
    | .tooDeep _ =>
      0 < err.tokenIndex ∧ err.tokenIndex ≤ ts.length ∧
        CanContinue options (ts.take (err.tokenIndex - 1)) ∧
        IsDeadEnd options (ts.take err.tokenIndex) := by
  obtain ⟨us, vs, y, hahead, hrun, hblames⟩ := stopsAt_of_parseTokens h
  rw [ahead_start hts hl] at hahead
  subst hahead
  have hindex : (Cursor.start lexemes).index + us.length = us.length := Nat.zero_add _
  rw [hindex] at hblames
  unfold Expectation.Blames at hblames
  cases hkind : err.kind with
  | unexpectedToken | unmatchedClose | missingOperator =>
      rw [hkind] at hblames
      obtain ⟨hi, hrefuses⟩ := hblames
      dsimp only
      rw [hi]
      exact hrefuses.earliest hts hrun
  | tooDeep =>
      rw [hkind] at hblames
      obtain ⟨hi, hrefuses⟩ := hblames
      obtain ⟨hlt, hbefore, hwith⟩ := hrefuses.earliest hts hrun
      dsimp only
      rw [hi]
      exact ⟨Nat.succ_pos _, hlt, hbefore, hwith⟩
  | unexpectedEnd =>
      rw [hkind] at hblames
      obtain ⟨hi, rfl, -⟩ := hblames
      rw [List.append_nil]
      exact ⟨hi, canContinue_of_run hrun⟩
  | unclosedOpen =>
      rw [hkind] at hblames
      obtain ⟨rfl, -⟩ := hblames
      rw [List.append_nil]
      exact canContinue_of_run hrun

/-- In `( a OR ) b` the closing parenthesis is at fault: behind `( a OR` an operand has to come, and
one may still come. -/
theorem parseTokens_error_missing_operand :
    let ts := [Token.openParen, .term "a", .or, .closeParen, .term "b"]
    let lexemes := (ts ++ [Token.endOfQuery]).map fun t => Lexeme.mk t 0
    Token.endOfQuery ∉ ts ∧ lexemes.map (·.token) = ts ++ [.endOfQuery] ∧
      parseTokens "" lexemes {} = .error ⟨.unexpectedToken "')'", "", 3, 0⟩ ∧
      CanContinue {} [.openParen, .term "a", .or] ∧
      IsDeadEnd {} [.openParen, .term "a", .or, .closeParen] := by
  intro ts lexemes
  have hts : Token.endOfQuery ∉ ts := by decide
  have hl : lexemes.map (·.token) = ts ++ [Token.endOfQuery] := rfl
  have h : parseTokens "" lexemes {} = .error ⟨.unexpectedToken "')'", "", 3, 0⟩ := by cbv
  exact ⟨hts, hl, h, (parseTokens_error_earliest hts hl h).2⟩

end

end LedgerSearch.Query
