import LedgerSearch.Query.Expr
import LedgerSearch.Query.Lexeme
import LedgerSearch.Query.SyntaxError

/-!
# `LedgerSearch.Query.Parser`: from tokens to an expression

The grammar, weakest operator first:

```text
disjunction := conjunction (OR conjunction)*
conjunction := negation (AND? negation)*
negation    := NOT negation | primary
primary     := term | phrase | ( disjunction )
```

Operators of one strength group to the left. `AND` may be left out between two operands, unless
`ParseOptions.implicitAnd` is off. A query without a token means `matchAll`.

The parser reads the tokens once, from left to right, one function per rule of the grammar. Each
function takes the state it starts in (`Cursor`) and gives the expression with the state behind it,
whose row of tokens is strictly shorter; that is why the recursion ends. Two counters travel with
the state: the open parentheses, which tell a closing parenthesis that is unmatched from one that
comes too early, and the open parentheses and negations together, which may not pass `maxNesting`.
-/

set_option autoImplicit false

namespace LedgerSearch.Query

/-- How a query is read. -/
structure ParseOptions where
  /-- Two operands side by side are joined by `AND`. -/
  implicitAnd : Bool := true
deriving DecidableEq, Repr

/-- The most parentheses and negations that may be open together. -/
def maxNesting : Nat := 256

/-- A place in the row of tokens, with what has been opened on the way there. -/
structure Cursor where
  /-- The tokens still to be read. -/
  rest : List Lexeme
  /-- How many tokens have been read. -/
  index : Nat
  /-- The token read last. -/
  last : Option Token
  /-- How many parentheses are open. -/
  groups : Nat
  /-- How many parentheses and negations are open. -/
  nesting : Nat
deriving Repr

namespace Cursor

/-- The place before the first token. -/
def start (lexemes : List Lexeme) : Cursor :=
  ⟨lexemes, 0, none, 0, 0⟩

/-- The token that comes next; past the last one, the end of the query. -/
def peek (s : Cursor) : Token :=
  match s.rest with
  | [] => .endOfQuery
  | lexeme :: _ => lexeme.token

/-- The byte offset of the token that comes next; past the last one, the length of the query. -/
def offset (s : Cursor) (query : String) : Nat :=
  match s.rest with
  | [] => query.utf8ByteSize
  | lexeme :: _ => lexeme.offset

/-- The place behind the token that comes next. -/
def advance (s : Cursor) : Cursor :=
  match s.rest with
  | [] => s
  | lexeme :: rest => { s with rest := rest, index := s.index + 1, last := some lexeme.token }

/-- An error at the token that comes next. -/
def fail (s : Cursor) (query : String) (kind : SyntaxErrorKind) : SyntaxError :=
  ⟨kind, query, s.index, s.offset query⟩

theorem advance_lt {s : Cursor} (h : s.peek ≠ .endOfQuery) :
    s.advance.rest.length < s.rest.length := by
  unfold peek at h
  unfold advance
  split at h <;> simp_all

end Cursor

/-- What a rule of the grammar gives: the expression and the place behind it, at least one token
further on than `s`. -/
abbrev Parsed (s : Cursor) : Type :=
  Except SyntaxError (Expr × { s' : Cursor // s'.rest.length < s.rest.length })

/-- One more parenthesis or negation is open; an error when that is one too many. -/
def Cursor.descend (s : Cursor) (query : String) :
    Except SyntaxError { s' : Cursor // s'.rest = s.rest } :=
  if s.nesting + 1 > maxNesting then .error (s.fail query (.tooDeep maxNesting))
  else .ok ⟨{ s with nesting := s.nesting + 1 }, rfl⟩

/-- What the parser says where an operand has to stand and the next token starts none. -/
def missingOperand (query : String) (s : Cursor) : SyntaxError :=
  match s.peek with
  | .endOfQuery =>
    s.fail query (.unexpectedEnd (match s.last with
      | some token => token.describe
      | none => "start of query"))
  | .closeParen =>
    s.fail query (if s.groups = 0 then .unmatchedClose
      else .unexpectedToken (Token.describe .closeParen))
  | token => s.fail query (.unexpectedToken token.describe)

mutual

/-- `disjunction := conjunction (OR conjunction)*` -/
def parseDisjunction (query : String) (options : ParseOptions) (s : Cursor) : Parsed s :=
  match parseConjunction query options s with
  | .error e => .error e
  | .ok (left, ⟨s₁, h₁⟩) =>
    match parseDisjuncts query options left s₁ with
    | .error e => .error e
    | .ok (e, ⟨s₂, h₂⟩) => .ok (e, ⟨s₂, by omega⟩)
termination_by (s.rest.length, 5)

/-- The rest of a disjunction behind its first operands, which are joined in `left`. -/
def parseDisjuncts (query : String) (options : ParseOptions) (left : Expr) (s : Cursor) :
    Except SyntaxError (Expr × { s' : Cursor // s'.rest.length ≤ s.rest.length }) :=
  if h : s.peek = .or then
    have h₀ := Cursor.advance_lt (s := s) (by simp [h])
    match parseConjunction query options s.advance with
    | .error e => .error e
    | .ok (right, ⟨s₁, h₁⟩) =>
      match parseDisjuncts query options (.or left right) s₁ with
      | .error e => .error e
      | .ok (e, ⟨s₂, h₂⟩) => .ok (e, ⟨s₂, by omega⟩)
  else .ok (left, ⟨s, Nat.le_refl _⟩)
termination_by (s.rest.length, 6)

/-- `conjunction := negation (AND? negation)*` -/
def parseConjunction (query : String) (options : ParseOptions) (s : Cursor) : Parsed s :=
  match parseNegation query options s with
  | .error e => .error e
  | .ok (left, ⟨s₁, h₁⟩) =>
    match parseConjuncts query options left s₁ with
    | .error e => .error e
    | .ok (e, ⟨s₂, h₂⟩) => .ok (e, ⟨s₂, by omega⟩)
termination_by (s.rest.length, 4)

/-- The rest of a conjunction behind its first operands, which are joined in `left`. -/
def parseConjuncts (query : String) (options : ParseOptions) (left : Expr) (s : Cursor) :
    Except SyntaxError (Expr × { s' : Cursor // s'.rest.length ≤ s.rest.length }) :=
  if h : s.peek = .and then
    have h₀ := Cursor.advance_lt (s := s) (by simp [h])
    match parseNegation query options s.advance with
    | .error e => .error e
    | .ok (right, ⟨s₁, h₁⟩) =>
      match parseConjuncts query options (.and left right) s₁ with
      | .error e => .error e
      | .ok (e, ⟨s₂, h₂⟩) => .ok (e, ⟨s₂, by omega⟩)
  else if s.peek.startsOperand then
    if options.implicitAnd then
      match parseNegation query options s with
      | .error e => .error e
      | .ok (right, ⟨s₁, h₁⟩) =>
        match parseConjuncts query options (.and left right) s₁ with
        | .error e => .error e
        | .ok (e, ⟨s₂, h₂⟩) => .ok (e, ⟨s₂, by omega⟩)
    else .error (s.fail query (.missingOperator s.peek.describe))
  else .ok (left, ⟨s, Nat.le_refl _⟩)
termination_by (s.rest.length, 6)

/-- `negation := NOT negation | primary` -/
def parseNegation (query : String) (options : ParseOptions) (s : Cursor) : Parsed s :=
  if h : s.peek = .not then
    have h₀ := Cursor.advance_lt (s := s) (by simp [h])
    match s.advance.descend query with
    | .error e => .error e
    | .ok ⟨s₁, h₁⟩ =>
      have h₁ := congrArg List.length h₁
      match parseNegation query options s₁ with
      | .error e => .error e
      | .ok (inner, ⟨s₂, h₂⟩) =>
        .ok (.not inner, ⟨{ s₂ with nesting := s₂.nesting - 1 }, by simp only; omega⟩)
  else parsePrimary query options s
termination_by (s.rest.length, 3)
decreasing_by
  · decreasing_tactic
  · rw [if_neg h]
    exact Prod.Lex.right _ (by decide)

/-- `primary := term | phrase | ( disjunction )`. A negation is taken as well, though the rules
never ask for a primary where one begins. -/
def parsePrimary (query : String) (options : ParseOptions) (s : Cursor) : Parsed s :=
  match h : s.peek with
  | .term text | .phrase text =>
    .ok (.term text, ⟨s.advance, Cursor.advance_lt (by simp [h])⟩)
  | .openParen => parseGroup query options s h
  | .not => parseNegation query options s
  | _ => .error (missingOperand query s)
termination_by (s.rest.length, if s.peek = .not then 4 else 2)
decreasing_by
  · rw [if_neg (by simp [h])]
    exact Prod.Lex.right _ (by decide)
  · rw [if_pos h]
    exact Prod.Lex.right _ (by decide)

/-- A parenthesised group, from its opening to its closing parenthesis. -/
def parseGroup (query : String) (options : ParseOptions) (s : Cursor)
    (h : s.peek = .openParen) : Parsed s :=
  have h₀ := Cursor.advance_lt (s := s) (by simp [h])
  match s.advance.descend query with
  | .error e => .error e
  | .ok ⟨s₁, h₁⟩ =>
    have h₁ := congrArg List.length h₁
    match parseDisjunction query options { s₁ with groups := s₁.groups + 1 } with
    | .error e => .error e
    | .ok (inner, ⟨s₂, h₂⟩) =>
      if h₃ : s₂.peek = .closeParen then
        have h₃ := Cursor.advance_lt (s := s₂) (by simp [h₃])
        .ok (inner, ⟨{ s₂.advance with
          groups := s₂.groups - 1
          nesting := s₂.nesting - 1 }, by simp only at h₂ ⊢; omega⟩)
      else .error ⟨.unclosedOpen, query, s.index, s.offset query⟩
termination_by (s.rest.length, 1)

end

/-- The expression that a row of tokens means. The row may lack its end-of-query token; tokens
behind one are not read. -/
def parseTokens (query : String) (lexemes : List Lexeme) (options : ParseOptions) :
    Except SyntaxError Expr :=
  let s := Cursor.start lexemes
  if s.peek = .endOfQuery then .ok .matchAll
  else
    match parseDisjunction query options s with
    | .error e => .error e
    | .ok (e, ⟨s', _⟩) =>
      match s'.peek with
      | .endOfQuery => .ok e
      | .closeParen => .error (s'.fail query .unmatchedClose)
      | token => .error (s'.fail query (.unexpectedToken token.describe))

/-- The expression that a query means. -/
def parse (query : String) (options : ParseOptions) : Except SyntaxError Expr :=
  parseTokens query (lex query) options

end LedgerSearch.Query
