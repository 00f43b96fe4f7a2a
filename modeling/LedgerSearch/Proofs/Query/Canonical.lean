import LedgerSearch.Proofs.Query.Parser

/-!
# `LedgerSearch.Proofs.Query.Canonical`: reading the canonical form back

`Expr.canonical` is meant to be read back as the same tree. `canonical_round_trip_iff` says for
which trees it is. Two things stand in the way: a tree that cannot be written, because a term holds
a quote or because `matchAll` leaves nothing to read (`Expr.Writable`), and a tree that is higher
than the parser follows (`Expr.height`).

What the parser returns can always be written (`writable_of_parse`), but it can be too high. A chain
such as `a OR b OR c` opens no parenthesis as it is typed, and its canonical form opens one for each
operator. So an accepted query has a canonical form that is accepted exactly up to the height limit
(`accepted_round_trip_iff`), and `orChain` is a family of queries that shows both sides of it.
-/

set_option autoImplicit false

namespace LedgerSearch.Query

open LedgerSearch.Text

namespace Expr

/-- The expression and all expressions in it. -/
def nodes : Expr → List Expr
  | matchAll => [matchAll]
  | term text => [term text]
  | and left right => and left right :: (left.nodes ++ right.nodes)
  | or left right => or left right :: (left.nodes ++ right.nodes)
  | not inner => not inner :: inner.nodes

/-- The most operators on a way from the root to a leaf. -/
def height : Expr → Nat
  | matchAll | term _ => 0
  | and left right | or left right => max left.height right.height + 1
  | not inner => inner.height + 1

/-- The canonical form says all that there is in the expression: `matchAll` leaves nothing to read,
and a quote would end the phrase it stands in. -/
def Writable (e : Expr) : Prop :=
  matchAll ∉ e.nodes ∧ ∀ text, term text ∈ e.nodes → '"' ∉ text.toList

/-- The tokens of the canonical form. -/
def tokens : Expr → List Token
  | matchAll => []
  | term text => [.phrase text]
  | and left right => .openParen :: ((left.tokens ++ .and :: right.tokens) ++ [.closeParen])
  | or left right => .openParen :: ((left.tokens ++ .or :: right.tokens) ++ [.closeParen])
  | not inner => .not :: inner.tokens

variable {e l r : Expr}

@[simp]
theorem nodes_term (text : String) : (term text).nodes = [term text] :=
  rfl

@[simp]
theorem nodes_and : (and l r).nodes = and l r :: (l.nodes ++ r.nodes) :=
  rfl

@[simp]
theorem nodes_or : (or l r).nodes = or l r :: (l.nodes ++ r.nodes) :=
  rfl

@[simp]
theorem nodes_not : (not e).nodes = not e :: e.nodes :=
  rfl

theorem writable_term_iff {text : String} : (term text).Writable ↔ '"' ∉ text.toList := by
  simp [Writable]

theorem writable_and_iff : (and l r).Writable ↔ l.Writable ∧ r.Writable := by
  simp only [Writable, nodes_and, List.mem_cons, List.mem_append, reduceCtorEq, false_or, not_or,
    or_imp, forall_and]
  exact and_and_and_comm

theorem writable_or_iff : (or l r).Writable ↔ l.Writable ∧ r.Writable := by
  simp only [Writable, nodes_or, List.mem_cons, List.mem_append, reduceCtorEq, false_or, not_or,
    or_imp, forall_and]
  exact and_and_and_comm

theorem writable_not_iff : (not e).Writable ↔ e.Writable := by
  simp [Writable]

end Expr

/-! ### What the parser returns can be written -/

/-- A sentence whose texts hold no quote has a tree that can be written. -/
theorem Derives.writable {implicitAnd : Bool} {rule : Rule} {ts : List Token} {e : Expr}
    (h : Derives implicitAnd rule ts e)
    (htexts : ∀ t ∈ ts, ∀ text, t.text? = some text → '"' ∉ text.toList) : e.Writable := by
  induction h with
  | term text => exact Expr.writable_term_iff.mpr (htexts _ List.mem_cons_self _ rfl)
  | phrase text => exact Expr.writable_term_iff.mpr (htexts _ List.mem_cons_self _ rfl)
  | group _ ih => exact ih fun t ht => htexts t (by simp [ht])
  | primary _ ih => exact ih htexts
  | not _ ih => exact Expr.writable_not_iff.mpr (ih fun t ht => htexts t (by simp [ht]))
  | negation _ ih => exact ih htexts
  | and _ _ ihl ihr =>
      exact Expr.writable_and_iff.mpr
        ⟨ihl fun t ht => htexts t (by simp [ht]), ihr fun t ht => htexts t (by simp [ht])⟩
  | adjacent _ _ _ ihl ihr =>
      exact Expr.writable_and_iff.mpr
        ⟨ihl fun t ht => htexts t (by simp [ht]), ihr fun t ht => htexts t (by simp [ht])⟩
  | conjunction _ ih => exact ih htexts
  | or _ _ ihl ihr =>
      exact Expr.writable_or_iff.mpr
        ⟨ihl fun t ht => htexts t (by simp [ht]), ihr fun t ht => htexts t (by simp [ht])⟩

/-- What the parser returns can be written, `matchAll` alone excepted. -/
theorem writable_of_parse {query : String} {options : ParseOptions} {e : Expr}
    (h : parse query options = .ok e) : e = .matchAll ∨ e.Writable := by
  obtain ⟨ts, hts, hend⟩ := tokensOf_eq_append query.toList
  rcases (parse_eq_ok_iff hts hend).mp h with ⟨-, rfl⟩ | ⟨hder, -⟩
  · exact .inl rfl
  · refine .inr (hder.writable fun t ht text htext => ?_)
    exact quote_notMem_text (hts ▸ List.mem_append_left _ ht) htext

/-! ### The tokens of the canonical form -/

/-- An operator in front of a blank is one token. -/
theorem tokensOf_operator {word : List Char} {t : Token} (hne : word ≠ [])
    (hword : word.all isWordChar = true) (ht : Token.ofWord (String.ofList word) = t)
    (rest : List Char) : tokensOf (word ++ ' ' :: rest) = t :: tokensOf rest := by
  rw [tokensOf_word hne (List.all_eq_true.mp hword) (by rintro c ⟨⟩; decide), ht,
    tokensOf_blank (by decide)]

/-- Two operands in parentheses with an operator between them. What an operand is read as has to be
known in front of any rest, since it says where the operand ends. -/
theorem tokensOf_parenthesised {left right word : List Char} {t : Token} {ts us : List Token}
    (hleft : ∀ rest, tokensOf (left ++ rest) = ts ++ tokensOf rest)
    (hright : ∀ rest, tokensOf (right ++ rest) = us ++ tokensOf rest) (hne : word ≠ [])
    (hword : word.all isWordChar = true) (ht : Token.ofWord (String.ofList word) = t)
    (rest : List Char) :
    tokensOf ('(' :: (left ++ ' ' :: (word ++ ' ' :: (right ++ ')' :: rest))))
      = .openParen :: ((ts ++ t :: us) ++ [.closeParen]) ++ tokensOf rest := by
  rw [tokensOf_openParen, hleft, tokensOf_blank (by decide), tokensOf_operator hne hword ht, hright,
    tokensOf_closeParen]
  simp

/-- The canonical form has the tokens of the expression, whatever stands behind it. -/
theorem tokensOf_canonical {e : Expr} (h : e.Writable) (rest : List Char) :
    tokensOf (e.canonical.toList ++ rest) = e.tokens ++ tokensOf rest := by
  induction e generalizing rest with
  | matchAll => exact absurd List.mem_cons_self h.1
  | term text =>
      have htext := Expr.writable_term_iff.mp h
      have hchars : (Expr.term text).canonical.toList ++ rest
          = '"' :: (text.toList ++ '"' :: rest) := by
        simp [Expr.canonical]
      rw [hchars, tokensOf_phrase htext, String.ofList_toList]
      rfl
  | not inner ih =>
      have hchars : (Expr.not inner).canonical.toList ++ rest
          = "NOT".toList ++ ' ' :: (inner.canonical.toList ++ rest) := by
        simp [Expr.canonical]
      rw [hchars, tokensOf_operator (t := .not) (by decide) rfl (by decide),
        ih (Expr.writable_not_iff.mp h)]
      rfl
  | and l r ihl ihr =>
      obtain ⟨hl, hr⟩ := Expr.writable_and_iff.mp h
      have hchars : (Expr.and l r).canonical.toList ++ rest
          = '(' :: (l.canonical.toList
            ++ ' ' :: ("AND".toList ++ ' ' :: (r.canonical.toList ++ ')' :: rest))) := by
        simp [Expr.canonical]
      rw [hchars]
      exact tokensOf_parenthesised (ihl hl) (ihr hr) (by decide) rfl (by decide) rest
  | or l r ihl ihr =>
      obtain ⟨hl, hr⟩ := Expr.writable_or_iff.mp h
      have hchars : (Expr.or l r).canonical.toList ++ rest
          = '(' :: (l.canonical.toList
            ++ ' ' :: ("OR".toList ++ ' ' :: (r.canonical.toList ++ ')' :: rest))) := by
        simp [Expr.canonical]
      rw [hchars]
      exact tokensOf_parenthesised (ihl hl) (ihr hr) (by decide) rfl (by decide) rest

theorem Expr.endOfQuery_notMem_tokens (e : Expr) : Token.endOfQuery ∉ e.tokens := by
  induction e <;> simp_all [Expr.tokens]

/-! ### The canonical form is a sentence -/

/-- The tokens of the canonical form are a sentence with the expression as its tree. -/
theorem Expr.derives_tokens (implicitAnd : Bool) {e : Expr} (h : e.Writable) :
    Derives implicitAnd .negation e.tokens e := by
  induction e with
  | matchAll => exact absurd List.mem_cons_self h.1
  | term text => exact .primary (.phrase text)
  | not inner ih => exact .not (ih (Expr.writable_not_iff.mp h))
  | and l r ihl ihr =>
      obtain ⟨hl, hr⟩ := Expr.writable_and_iff.mp h
      exact .primary (.group (.conjunction (.and (.negation (ihl hl)) (ihr hr))))
  | or l r ihl ihr =>
      obtain ⟨hl, hr⟩ := Expr.writable_or_iff.mp h
      exact .primary (.group (.or (.conjunction (.negation (ihl hl))) (.negation (ihr hr))))

/-- The canonical form opens one parenthesis or negation for every operator. -/
theorem Expr.nestingOf_tokens {e : Expr} (h : e.Writable) : nestingOf e.tokens = e.height := by
  induction e with
  | matchAll => exact absurd List.mem_cons_self h.1
  | term text => rfl
  | not inner ih =>
      have hinner := Expr.writable_not_iff.mp h
      -- how deep a sentence goes does not depend on the mode, so any will do
      have hder := Expr.derives_tokens true hinner
      show nestingOf (.not :: inner.tokens) = inner.height + 1
      rw [hder.nestingOf_not, ih hinner]
  | and l r ihl ihr =>
      obtain ⟨hl, hr⟩ := Expr.writable_and_iff.mp h
      have hderl := (Expr.derives_tokens true hl).negation
      have hderr := Expr.derives_tokens true hr
      show nestingOf (.openParen :: ((l.tokens ++ .and :: r.tokens) ++ [Token.closeParen])) = _
      rw [(Derives.conjunction (.and hderl hderr)).nestingOf_group, hderl.nestingOf_and hderr,
        ihl hl, ihr hr]
      rfl
  | or l r ihl ihr =>
      obtain ⟨hl, hr⟩ := Expr.writable_or_iff.mp h
      have hderl := (Expr.derives_tokens true hl).negation.conjunction
      have hderr := (Expr.derives_tokens true hr).negation
      show nestingOf (.openParen :: ((l.tokens ++ .or :: r.tokens) ++ [Token.closeParen])) = _
      rw [(Derives.or hderl hderr).nestingOf_group, hderl.nestingOf_or hderr, ihl hl, ihr hr]
      rfl

/-! ### Reading the canonical form back -/

/-- `matchAll` is written as nothing and nothing reads as `matchAll`. -/
theorem parse_canonical_matchAll (options : ParseOptions) :
    parse Expr.matchAll.canonical options = .ok .matchAll :=
  (@parse_eq_ok_iff "" options .matchAll [] tokensOf_nil List.not_mem_nil).mpr (.inl ⟨rfl, rfl⟩)

/-- What can be written reads back exactly where it is not too high. -/
theorem parse_canonical_iff_of_writable {e : Expr} (h : e.Writable) (options : ParseOptions) :
    parse e.canonical options = .ok e ↔ e.height ≤ maxNesting := by
  have hts : tokensOf e.canonical.toList = e.tokens ++ [Token.endOfQuery] := by
    -- the canonical form with nothing behind it
    rw [← tokensOf_nil, ← tokensOf_canonical h, List.append_nil]
  have hder : Derives options.implicitAnd .disjunction e.tokens e :=
    .conjunction (.negation (Expr.derives_tokens _ h))
  rw [parse_eq_ok_iff hts e.endOfQuery_notMem_tokens, ← Expr.nestingOf_tokens h, ← nestsWithin_iff]
  constructor
  · rintro (⟨-, rfl⟩ | ⟨-, hn⟩)
    · exact absurd List.mem_cons_self h.1
    · exact hn
  · intro hn
    exact .inr ⟨hder, hn⟩

/-- **Exactly the expressions that survive printing and parsing.** They are `matchAll` alone and
those without `matchAll`, without a quote in a term and without more than `maxNesting` operators on
a way from the root to a leaf. -/
theorem canonical_round_trip_iff (e : Expr) (options : ParseOptions) :
    parse e.canonical options = .ok e ↔
      e = .matchAll ∨
        .matchAll ∉ e.nodes ∧ (∀ text, .term text ∈ e.nodes → '"' ∉ text.toList) ∧
          e.height ≤ maxNesting := by
  constructor
  · intro h
    -- the tree is one that the parser returned, so it can be written
    rcases writable_of_parse h with rfl | hw
    · exact .inl rfl
    · exact .inr ⟨hw.1, hw.2, (parse_canonical_iff_of_writable hw options).mp h⟩
  · rintro (rfl | ⟨hall, htexts, hheight⟩)
    · exact parse_canonical_matchAll options
    · exact (parse_canonical_iff_of_writable ⟨hall, htexts⟩ options).mpr hheight

/-- **What the parser accepts need not be accepted again in canonical form.** The canonical form of
an accepted query reads back as the same tree exactly where the tree is not higher than the parser's
limit: a chain of operators takes no parenthesis to write but one for each operator in canonical
form. -/
theorem accepted_round_trip_iff {query : String} {options : ParseOptions} {e : Expr}
    (h : parse query options = .ok e) (options' : ParseOptions) :
    parse e.canonical options' = .ok e ↔ e.height ≤ maxNesting := by
  rcases writable_of_parse h with rfl | hw
  · exact ⟨fun _ => Nat.zero_le _, fun _ => parse_canonical_matchAll options'⟩
  · exact parse_canonical_iff_of_writable hw options'

/-! ### A chain as high as one likes -/

/-- The query `a OR a ... OR a` with the given number of operators. -/
def orChain : Nat → List Char
  | 0 => ['a']
  | n + 1 => orChain n ++ ' ' :: 'O' :: 'R' :: ' ' :: 'a' :: []

/-- The tokens of the chain. -/
def orChainTokens : Nat → List Token
  | 0 => [.term "a"]
  | n + 1 => orChainTokens n ++ [.or, .term "a"]

/-- The tree of the chain. -/
def orChainExpr : Nat → Expr
  | 0 => .term "a"
  | n + 1 => .or (orChainExpr n) (.term "a")

theorem tokensOf_orChain (n : Nat) {rest : List Char}
    (hrest : ∀ c ∈ rest.head?, isWordChar c = false) :
    tokensOf (orChain n ++ rest) = orChainTokens n ++ tokensOf rest := by
  have hterm : ∀ {rest : List Char}, (∀ c ∈ rest.head?, isWordChar c = false) →
      tokensOf (['a'] ++ rest) = .term "a" :: tokensOf rest := fun hrest =>
    tokensOf_word (List.cons_ne_nil _ _) (List.all_eq_true.mp rfl) hrest
  induction n generalizing rest with
  | zero => exact hterm hrest
  | succ n ih =>
      have hchars : orChain (n + 1) ++ rest
          = orChain n ++ ' ' :: (['O', 'R'] ++ ' ' :: (['a'] ++ rest)) := by
        simp [orChain]
      rw [hchars, ih (by rintro c ⟨⟩; decide), tokensOf_blank (by decide),
        tokensOf_operator (t := .or) (List.cons_ne_nil _ _) rfl (by decide), hterm hrest]
      simp [orChainTokens]

theorem derives_orChain (implicitAnd : Bool) (n : Nat) :
    Derives implicitAnd .disjunction (orChainTokens n) (orChainExpr n) := by
  induction n with
  | zero => exact .conjunction (.negation (.primary (.term "a")))
  | succ n ih => exact .or ih (.negation (.primary (.term "a")))

theorem nestingOf_orChain (n : Nat) : nestingOf (orChainTokens n) = 0 := by
  induction n with
  | zero => rfl
  | succ n ih =>
      have hterm : Derives true .conjunction [.term "a"] (.term "a") :=
        .negation (.primary (.term "a"))
      show nestingOf (orChainTokens n ++ [Token.or, Token.term "a"]) = 0
      rw [(derives_orChain true n).nestingOf_or hterm, ih]
      rfl

theorem height_orChain (n : Nat) : (orChainExpr n).height = n := by
  induction n with
  | zero => rfl
  | succ n ih =>
      show max (orChainExpr n).height 0 + 1 = n + 1
      rw [ih, Nat.max_zero]

theorem writable_orChain (n : Nat) : (orChainExpr n).Writable := by
  induction n with
  | zero => exact Expr.writable_term_iff.mpr (by decide)
  | succ n ih =>
      exact Expr.writable_or_iff.mpr ⟨ih, Expr.writable_term_iff.mpr (by decide)⟩

/-- The parser accepts a chain of any length. -/
theorem parse_orChain (n : Nat) (options : ParseOptions) :
    parse (String.ofList (orChain n)) options = .ok (orChainExpr n) := by
  have hder := derives_orChain options.implicitAnd n
  have hts : tokensOf (String.ofList (orChain n)).toList
      = orChainTokens n ++ [Token.endOfQuery] := by
    rw [String.toList_ofList, ← tokensOf_nil, ← tokensOf_orChain n (by rintro c ⟨⟩),
      List.append_nil]
  refine (parse_eq_ok_iff hts hder.endOfQuery_notMem).mpr (.inr ⟨hder, nestsWithin_iff.mpr ?_⟩)
  rw [nestingOf_orChain]
  exact Nat.zero_le _

/-- A chain of 256 operators is accepted again in canonical form. -/
theorem orChain_round_trip :
    parse (String.ofList (orChain 256)) {} = .ok (orChainExpr 256) ∧
      parse (orChainExpr 256).canonical {} = .ok (orChainExpr 256) := by
  have haccepted := parse_orChain 256 {}
  -- the height is the number of operators, here just the limit
  refine ⟨haccepted, (accepted_round_trip_iff haccepted {}).mpr ?_⟩
  rw [height_orChain]
  decide

/-- One operator more and it is not, though the query is accepted. -/
theorem orChain_no_round_trip :
    parse (String.ofList (orChain 257)) {} = .ok (orChainExpr 257) ∧
      parse (orChainExpr 257).canonical {} ≠ .ok (orChainExpr 257) := by
  refine ⟨parse_orChain 257 {}, fun h => ?_⟩
  have hle := (parse_canonical_iff_of_writable (writable_orChain 257) {}).mp h
  rw [height_orChain] at hle
  exact absurd hle (by decide)

end LedgerSearch.Query
