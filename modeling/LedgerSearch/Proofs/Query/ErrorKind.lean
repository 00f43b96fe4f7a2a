import LedgerSearch.Proofs.Query.Failure

/-!
# `LedgerSearch.Proofs.Query.ErrorKind`: what the kind of an error says of its token

An error comes with a kind, and the kind decides what the user is told to do. Two kinds concern a
closing parenthesis, two the end of a query, and each is raised where the parser happens to notice.
`parseTokens_error_kind` states what every kind means in terms of the tokens alone: which token the
error names, what stands in front of it, and which parentheses are open there
(`SyntaxErrorKind.Fits`). It follows from the grounds of the error, see
`LedgerSearch.Proofs.Query.Failure`.

Which parentheses are open is told here by their places (`openGroups`), since an error for a
parenthesis that is never closed has to name the right one. A sentence closes what it opens
(`Derives.openGroupsFrom_eq`), so behind a complete sentence the innermost open parenthesis is the
one in front of it.

Some arms of the parser are there for the compiler only. Behind a whole disjunction there is always
a closing parenthesis or the end, and a primary is never asked for where a negation begins. The
theorem states that any other answer could stand in these arms.
-/

set_option autoImplicit false

namespace LedgerSearch.Query

/-! ### Open parentheses by their places -/

/-- The places of the open parentheses behind the token with the index `index`, when `groups` are
open in front of it. -/
def openGroupsStep (index : Nat) (groups : List Nat) : Token → List Nat
  | .openParen => index :: groups
  | .closeParen => groups.tail
  | _ => groups

/-- The places of the open parentheses behind the tokens, the first of which has the index `index`,
when `groups` are open in front of them. -/
def openGroupsFrom (index : Nat) (groups : List Nat) : List Token → List Nat
  | [] => groups
  | t :: ts => openGroupsFrom (index + 1) (openGroupsStep index groups t) ts

/-- The places of the parentheses that the tokens leave open, innermost first. -/
def openGroups (ts : List Token) : List Nat :=
  openGroupsFrom 0 [] ts

section
variable {index : Nat} {groups : List Nat} {ts us : List Token}

theorem openGroupsFrom_append :
    openGroupsFrom index groups (ts ++ us)
      = openGroupsFrom (index + ts.length) (openGroupsFrom index groups ts) us := by
  induction ts generalizing index groups with
  | nil => rfl
  | cons t ts ih =>
      rw [List.cons_append, openGroupsFrom, openGroupsFrom, ih, List.length_cons, Nat.add_assoc,
        Nat.add_comm 1]

/-- A sentence closes the parentheses that it opens, and no others. -/
theorem Derives.openGroupsFrom_eq {implicitAnd : Bool} {rule : Rule} {e : Expr}
    (h : Derives implicitAnd rule ts e) : openGroupsFrom index groups ts = groups := by
  induction h generalizing index groups with
  | term | phrase => rfl
  | group _ ih =>
      rw [openGroupsFrom, openGroupsFrom_append, ih]
      rfl
  | primary _ ih | negation _ ih | conjunction _ ih => exact ih
  | not _ ih => exact ih
  | and _ _ ihl ihr | or _ _ ihl ihr =>
      rw [openGroupsFrom_append, ihl]
      exact ihr
  | adjacent _ _ _ ihl ihr => rw [openGroupsFrom_append, ihl, ihr]

/-- A closing parenthesis takes one group from the stack, if there is one. -/
theorem count_group_tail_settle (stack : List Opener) :
    (settle stack).tail.count .group = stack.count .group - 1 := by
  fun_induction settle stack with
  | case1 stack ih => rw [ih, List.count_cons_of_ne (by decide)]
  | case2 stack hstack =>
      -- a settled stack is empty or has a group on top
      cases stack with
      | nil => rfl
      | cons opener stack =>
          cases opener with
          | group => rw [List.tail_cons, List.count_cons_self, Nat.add_sub_cancel]
          | negation => exact absurd rfl (hstack stack)

theorem length_openGroupsStep {stack : List Opener} (h : groups.length = stack.count .group)
    (t : Token) : (openGroupsStep index groups t).length = (openersStep stack t).count .group := by
  cases t with
  | term | phrase => exact h.trans (count_group_settle stack).symm
  | and | or | endOfQuery => exact h
  | not => exact h.trans (List.count_cons_of_ne (by decide)).symm
  | openParen => exact (congrArg (· + 1) h).trans List.count_cons_self.symm
  | closeParen =>
      show groups.tail.length = (settle (settle stack).tail).count .group
      rw [count_group_settle, count_group_tail_settle, ← h, List.length_tail]

/-- There are as many open parentheses as groups in the stack of what is open. -/
theorem length_openGroupsFrom {stack : List Opener} (h : groups.length = stack.count .group) :
    (openGroupsFrom index groups ts).length = (openersFrom stack ts).count .group := by
  induction ts generalizing index groups stack with
  | nil => exact h
  | cons t ts ih => exact ih (length_openGroupsStep h t)

end

/-! ### What a kind says -/

/-- An operand has to come behind the token. -/
def Token.awaitsOperand : Token → Bool
  | .and | .or | .not | .openParen => true
  | _ => false

/-- The last token of the row is one of these. -/
def EndsWith (p : Token → Bool) (ts : List Token) : Prop :=
  ∃ u, ts.getLast? = some u ∧ p u = true

/-- What the kind of an error says of a row of tokens `ts`, when the error names the token `t` with
the index `i`. -/
def SyntaxErrorKind.Fits (implicitAnd : Bool) (ts : List Token) (i : Nat) (t : Token) :
    SyntaxErrorKind → Prop
  | .unmatchedClose => t = .closeParen ∧ openGroups (ts.take i) = []
  | .unexpectedToken found =>
    (t = .and ∨ t = .or ∨ t = .closeParen ∧ openGroups (ts.take i) ≠ []) ∧
      (i = 0 ∨ EndsWith Token.awaitsOperand (ts.take i)) ∧ found = t.describe
  | .missingOperator found =>
    implicitAnd = false ∧ t.startsOperand = true ∧ EndsWith Token.endsOperand (ts.take i) ∧
      found = t.describe
  | .unexpectedEnd after =>
    t = .endOfQuery ∧
      ∃ u, (ts.take i).getLast? = some u ∧ u.awaitsOperand = true ∧ after = u.describe
  | .unclosedOpen =>
    t = .openParen ∧ (openGroups ts).head? = some i ∧ EndsWith Token.endsOperand ts ∧
      ∃ e, Derives implicitAnd .disjunction (ts.drop (i + 1)) e
  | .tooDeep limit =>
    limit = maxNesting ∧ ∃ before u, ts.take i = before ++ [u] ∧ (u = .not ∨ u = .openParen) ∧
      NestsWithin maxNesting before ∧ (openers (before ++ [u])).length = maxNesting + 1

/-- Of the other kinds, none fits a closing parenthesis that closes nothing. -/
theorem SyntaxErrorKind.Fits.unmatchedClose_iff {implicitAnd : Bool} {ts : List Token} {i : Nat}
    {t : Token} {kind : SyntaxErrorKind} (h : kind.Fits implicitAnd ts i t)
    (hdeep : ∀ limit, kind ≠ .tooDeep limit) :
    kind = .unmatchedClose ↔ t = .closeParen ∧ openGroups (ts.take i) = [] := by
  constructor
  · rintro rfl
    exact h
  · rintro ⟨rfl, hclosed⟩
    cases kind with
    | unmatchedClose => rfl
    | unexpectedToken found =>
        obtain ⟨hand | hor | ⟨-, hopen⟩, -⟩ := h
        · cases hand
        · cases hor
        · exact absurd hclosed hopen
    | missingOperator found => cases h.2.1
    | unexpectedEnd after => cases h.1
    | unclosedOpen => cases h.1
    | tooDeep limit => exact absurd rfl (hdeep limit)

/-! ### The grounds of an error and its kind -/

section
variable {query : String} {implicitAnd : Bool} {ts us : List Token} {s : Cursor} {y : Expectation}

/-- What is expected behind some tokens is seen from the last of them. -/
theorem endsWith_of_run (h : Expectation.start.run implicitAnd us = some y) :
    if y.operand then us = [] ∨ EndsWith Token.awaitsOperand us
    else EndsWith Token.endsOperand us := by
  have hoperand := Expectation.operand_of_run h
  have hend := Expectation.endOfQuery_notMem_of_run h
  cases hlast : us.getLast? with
  | none =>
      rw [List.getLast?_eq_none_iff] at hlast
      rw [hoperand, hlast]
      exact .inl rfl
  | some u =>
      have hu : u ≠ .endOfQuery := fun hu => hend (hu ▸ List.mem_of_getLast? hlast)
      rw [hlast] at hoperand
      rw [hoperand]
      cases u with
      | and | or | not | openParen => exact .inr ⟨_, hlast, rfl⟩
      | term | phrase | closeParen => exact ⟨_, hlast, rfl⟩
      | endOfQuery => exact absurd rfl hu

/-- The tokens ahead begin with the next one. -/
theorem Cursor.exists_ahead_append (s : Cursor) :
    ∃ vs, s.ahead ++ [.endOfQuery] = s.peek :: vs := by
  by_cases hend : s.peek = .endOfQuery
  · exact ⟨[], by rw [Cursor.ahead_eq_nil_iff.mpr hend, hend, List.nil_append]⟩
  · exact ⟨_, by rw [Cursor.ahead_eq_cons hend, List.cons_append]⟩

theorem tokenIndex_missingOperand : (missingOperand query s).tokenIndex = s.index := by
  unfold missingOperand
  split <;> rfl

/-- Where an operand is missing, the kind fits the token that stands there. -/
theorem fits_missingOperand (hus : ts.take us.length = us) (hlast : s.last = us.getLast?)
    (hawaits : us = [] ∨ EndsWith Token.awaitsOperand us)
    (hgroups : s.groups = (openGroups us).length) (hne : us = [] → s.peek ≠ .endOfQuery)
    (hs : s.peek.startsOperand = false) :
    (missingOperand query s).kind.Fits implicitAnd ts us.length s.peek := by
  have hplace : us.length = 0 ∨ EndsWith Token.awaitsOperand (ts.take us.length) := by
    rwa [List.length_eq_zero_iff, hus]
  unfold missingOperand
  cases hpeek : s.peek with
  | endOfQuery =>
      obtain ⟨u, hu, hawait⟩ := hawaits.resolve_left fun hnil => hne hnil hpeek
      refine ⟨rfl, u, by rw [hus, hu], hawait, ?_⟩
      rw [hlast, hu]
  | and => exact ⟨.inl rfl, hplace, rfl⟩
  | or => exact ⟨.inr (.inl rfl), hplace, rfl⟩
  | closeParen =>
      have hopen : s.groups = 0 ↔ openGroups (ts.take us.length) = [] := by
        rw [hgroups, hus, List.length_eq_zero_iff]
      by_cases hclosed : s.groups = 0
      · simp only [if_pos hclosed]
        exact ⟨rfl, hopen.mp hclosed⟩
      · simp only [if_neg hclosed]
        exact ⟨.inr (.inr ⟨rfl, mt hopen.mpr hclosed⟩), hplace, rfl⟩
  | term | phrase | not | openParen =>
      rw [hpeek] at hs
      cases hs

/-- The token that opens one too many is the one in front of the token that the error names. -/
theorem fits_tooDeep {t t' : Token} {vs : List Token} (hts : ts = us ++ t :: vs)
    (hrun : Expectation.start.run implicitAnd us = some y) (hdeep : y.stack.length = maxNesting)
    (ht : t = .not ∨ t = .openParen) :
    (SyntaxErrorKind.tooDeep maxNesting).Fits implicitAnd ts (us.length + 1) t' := by
  have hstack : y.stack = openers us := Expectation.stack_of_run hrun
  refine ⟨rfl, us, t, ?_, ht, ?_, ?_⟩
  · rw [hts, List.take_length_add_append]
    rfl
  · exact nestsWithin_iff.mpr (Expectation.deepest_of_run hrun (Nat.zero_le _))
  · rw [openers, openersFrom_append]
    show (openersStep (openers us) t).length = maxNesting + 1
    rw [← hstack, ← hdeep]
    rcases ht with rfl | rfl <;> rfl

/-- The parenthesis in front of the last sentence is the innermost one that is left open. -/
theorem fits_unclosedOpen {inner : List Token} {e : Expr} (hts : ts = us ++ .openParen :: inner)
    (hinner : Derives implicitAnd .disjunction inner e) :
    SyntaxErrorKind.unclosedOpen.Fits implicitAnd ts us.length .openParen := by
  have hopen : openGroups ts = us.length :: openGroups us := by
    rw [hts, openGroups, openGroupsFrom_append, openGroupsFrom, hinner.openGroupsFrom_eq,
      Nat.zero_add]
    rfl
  obtain ⟨front, last, hlast, hends⟩ := hinner.last_endsOperand
  refine ⟨rfl, by rw [hopen, List.head?_cons], ⟨last, ?_, hends⟩, e, ?_⟩
  · rw [hts, hlast, ← List.cons_append, ← List.append_assoc, List.getLast?_concat]
  · rwa [hts, List.drop_length_add_append]

end

section
variable {query : String} {options : ParseOptions} {lexemes : List Lexeme} {ts : List Token}

/-- A query that is refused holds a token. -/
theorem ne_nil_of_parseTokens_eq_error {err : SyntaxError} (hts : .endOfQuery ∉ ts)
    (hl : lexemes.map (·.token) = ts ++ [.endOfQuery])
    (h : parseTokens query lexemes options = .error err) : ts ≠ [] := by
  rintro rfl
  have hend := Cursor.ahead_eq_nil_iff.mp (ahead_start hts hl)
  rw [parseTokens_eq, if_pos hend] at h
  cases h

/-- The kind of an error fits the token that the error names. -/
theorem fits_of_parseTokens_eq_error {err : SyntaxError} (hts : .endOfQuery ∉ ts)
    (hl : lexemes.map (·.token) = ts ++ [.endOfQuery])
    (h : parseTokens query lexemes options = .error err) :
    ∃ t, (ts ++ [.endOfQuery])[err.tokenIndex]? = some t ∧
      err.kind.Fits options.implicitAnd ts err.tokenIndex t := by
  obtain ⟨us, y, s, hleads, hrun, hraises⟩ := failsAt_of_parseTokens h
  have hahead : ts = us ++ s.ahead := by rw [← hleads.ahead_eq, ahead_start hts hl]
  have hindex : s.index = us.length := hleads.index_eq.trans (Nat.zero_add _)
  have hfail : ∀ kind, (s.fail query kind).tokenIndex = us.length := fun _ => hindex
  have hus : ts.take us.length = us := by rw [hahead, List.take_left]
  have hgroups : (openGroups us).length = y.stack.count .group := by
    rw [Expectation.stack_of_run hrun]
    exact length_openGroupsFrom rfl
  have hends := endsWith_of_run hrun
  have htoken : (ts ++ [Token.endOfQuery])[us.length]? = some s.peek := by
    obtain ⟨vs, hvs⟩ := s.exists_ahead_append
    rw [hahead, List.append_assoc, hvs, List.getElem?_append_right (Nat.le_refl _), Nat.sub_self]
    rfl
  cases hraises with
  | missingOperand hx hcount hs =>
      rw [if_pos hx] at hends
      -- a query without tokens is accepted, so the end of the query has a token in front of it
      have hne : us = [] → s.peek ≠ .endOfQuery := by
        rintro rfl hend
        rw [Cursor.ahead_eq_nil_iff.mpr hend] at hahead
        exact ne_nil_of_parseTokens_eq_error hts hl h hahead
      have hlast : s.last = us.getLast? := hleads.last_eq.trans Option.or_none
      rw [tokenIndex_missingOperand, hindex]
      exact ⟨_, htoken, fits_missingOperand hus hlast hends (hcount ▸ hgroups.symm) hne hs⟩
  | missingOperator hx himp hs =>
      rw [hx, if_neg Bool.false_ne_true] at hends
      rw [hfail]
      exact ⟨_, htoken, himp, hs, hus.symm ▸ hends, rfl⟩
  | unmatchedClose hx hnil hs =>
      have hclosed : openGroups us = [] := by
        rw [← List.length_eq_zero_iff, hgroups, hnil]
        rfl
      rw [hfail]
      exact ⟨_, htoken, hs, hus.symm ▸ hclosed⟩
  | tooDeep hx hdeep hs =>
      have hend : s.peek ≠ .endOfQuery := by rcases hs with hs | hs <;> simp [hs]
      have hbehind : (s.advance.fail query (.tooDeep maxNesting)).tokenIndex = us.length + 1 :=
        (Cursor.index_advance (Cursor.rest_ne_nil hend)).trans (congrArg (· + 1) hindex)
      rw [Cursor.ahead_eq_cons hend] at hahead
      rw [hbehind]
      -- the token may be any, the end of the query too
      exact ⟨_, List.getElem?_eq_getElem (by rw [hahead]; simp),
        fits_tooDeep hahead hrun hdeep hs⟩
  | unclosedOpen hx hs hinner hn =>
      have hend : s.peek ≠ .endOfQuery := fun hend => by
        rw [Cursor.ahead_eq_nil_iff.mpr hend] at hs
        cases hs
      have hpeek : s.peek = .openParen := by
        rw [Cursor.ahead_eq_cons hend] at hs
        exact (List.cons.inj hs).1
      rw [hpeek] at htoken
      rw [hs] at hahead
      show ∃ t, (ts ++ [Token.endOfQuery])[s.index]? = some t ∧
        SyntaxErrorKind.unclosedOpen.Fits options.implicitAnd ts s.index t
      rw [hindex]
      exact ⟨_, htoken, fits_unclosedOpen hahead hinner⟩

/-! ### Arms that are never reached

The parser has an answer to every token in every place, also where no such token can come. What it
says there plays no part: any other answer makes the same parser. -/

/-- The parser with the answer `other` to a token behind a whole disjunction that is neither a
closing parenthesis nor the end of the query. -/
def parseTokensOr (other : Except SyntaxError Expr) (query : String) (lexemes : List Lexeme)
    (options : ParseOptions) : Except SyntaxError Expr :=
  if (Cursor.start lexemes).peek = .endOfQuery then .ok .matchAll
  else
    readDisjunction query options (Cursor.start lexemes) >>= fun p =>
      match p.2.peek with
      | .endOfQuery => .ok p.1
      | .closeParen => .error (p.2.fail query .unmatchedClose)
      | _ => other

/-- The reading of a negation with the answer `other` where a primary is asked for and a negation
begins. -/
def readNegationOr (other : Except SyntaxError (Expr × Cursor)) (query : String)
    (options : ParseOptions) (s : Cursor) : Except SyntaxError (Expr × Cursor) :=
  if s.peek = .not then
    if s.nesting + 1 > maxNesting then .error (s.advance.fail query (.tooDeep maxNesting))
    else
      readNegation query options s.enterNegation >>= fun p => .ok (.not p.1, p.2.leaveNegation)
  else
    match s.peek with
    | .not => other
    | _ => readPrimary query options s

theorem parseTokens_eq_parseTokensOr (other : Except SyntaxError Expr) :
    parseTokens query lexemes options = parseTokensOr other query lexemes options := by
  rw [parseTokens_eq, parseTokensOr]
  refine ite_congr rfl (fun _ => rfl) fun _ => ?_
  cases h : readDisjunction query options (Cursor.start lexemes) with
  | error err => rfl
  | ok p =>
      show (match p.2.peek with | .endOfQuery => _ | .closeParen => _ | token => _)
        = match p.2.peek with | .endOfQuery => _ | .closeParen => _ | _ => _
      rcases peek_of_readDisjunction h with hclose | hend
      · rw [hclose]
      · rw [hend]

theorem readNegation_eq_readNegationOr (other : Except SyntaxError (Expr × Cursor)) (s : Cursor) :
    readNegation query options s = readNegationOr other query options s := by
  rw [readNegation_eq, readNegationOr]
  refine ite_congr rfl (fun _ => rfl) fun hnot => ?_
  split
  · exact absurd ‹_› hnot
  · rfl

/-! ### The kinds of errors -/

/-- **The kind of an error says what its token is.** Take a row of tokens with the end of the query
behind it that the parser does not accept. An error that is not about the nesting is for an unmatched
parenthesis exactly where its token is a closing parenthesis with nothing open in front of it. Every
kind fits the token that the error names, as `SyntaxErrorKind.Fits` has it.

- A token is unexpected where an operand has to come: an operator of two operands, or a closing
  parenthesis with one open.
- An operator is missing between two operands where adjacency does not join them.
- The query ends too early right behind a token that asks for an operand.
- It leaves a parenthesis open where it ends behind a complete operand, and the error names the
  innermost one.
- It is nested too deeply right behind the token that opens one too many.

No other token comes behind a whole disjunction, and a primary is never asked for where a negation
begins, so the answers of the parser to these two do not matter. -/
theorem parseTokens_error_kind (hts : .endOfQuery ∉ ts)
    (hl : lexemes.map (·.token) = ts ++ [.endOfQuery]) :
    (∀ err, parseTokens query lexemes options = .error err →
      ∃ t, (ts ++ [.endOfQuery])[err.tokenIndex]? = some t ∧
        ((∀ limit, err.kind ≠ .tooDeep limit) →
          (err.kind = .unmatchedClose ↔
            t = .closeParen ∧ openGroups (ts.take err.tokenIndex) = [])) ∧
        err.kind.Fits options.implicitAnd ts err.tokenIndex t) ∧
    (∀ other, parseTokens query lexemes options = parseTokensOr other query lexemes options) ∧
    ∀ other s, readNegation query options s = readNegationOr other query options s := by
  refine ⟨fun err h => ?_, parseTokens_eq_parseTokensOr, readNegation_eq_readNegationOr⟩
  obtain ⟨t, ht, hfits⟩ := fits_of_parseTokens_eq_error hts hl h
  exact ⟨t, ht, hfits.unmatchedClose_iff, hfits⟩

/-- In `( a ( b ) NOT ( "c"` two parentheses are left open, and the error names the one in front of
the phrase. -/
theorem parseTokens_error_kind_unclosedOpen :
    let ts := [Token.openParen, .term "a", .openParen, .term "b", .closeParen, .not, .openParen,
      .phrase "c"]
    let lexemes := (ts ++ [Token.endOfQuery]).map fun t => Lexeme.mk t 0
    Token.endOfQuery ∉ ts ∧ lexemes.map (·.token) = ts ++ [.endOfQuery] ∧
      parseTokens "" lexemes {} = .error ⟨.unclosedOpen, "", 6, 0⟩ ∧
      openGroups ts = [6, 0] ∧ SyntaxErrorKind.unclosedOpen.Fits true ts 6 .openParen := by
  intro ts lexemes
  have hts : Token.endOfQuery ∉ ts := by decide
  have hl : lexemes.map (·.token) = ts ++ [Token.endOfQuery] := rfl
  have h : parseTokens "" lexemes {} = .error ⟨.unclosedOpen, "", 6, 0⟩ := by cbv
  obtain ⟨t, ht, -, hfits⟩ := (parseTokens_error_kind hts hl).1 _ h
  obtain rfl : .openParen = t := Option.some.inj ht
  exact ⟨hts, hl, h, rfl, hfits⟩

end

end LedgerSearch.Query
