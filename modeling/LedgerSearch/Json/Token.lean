import LedgerSearch.Json.Number
import LedgerSearch.Text.Hex

/-!
# `LedgerSearch.Json.Token`: the tokens of a JSON text

A JSON text is read in two steps, first into tokens and then into a value. A token is a mark, one of
the three words, a number or a string literal. White space between tokens is the four characters of
the standard. A number has no sign but a minus, no leading zero and at least one digit wherever
digits can stand. A string literal ends at the first quote that is not escaped and holds no control
character.

An escape `\u` gives one 16-bit unit. Two units that form a surrogate pair denote one character; a
literal with a surrogate that is not part of a pair denotes no text.
-/

set_option autoImplicit false

namespace LedgerSearch.Json

/-- A token of a JSON text. -/
inductive Token
  | openBracket | closeBracket
  | openBrace | closeBrace
  | comma | colon
  | null
  | bool (b : Bool)
  | number (n : Number)
  | string (literal : Literal)
deriving DecidableEq, Repr

/-- White space between tokens. -/
def isSpace (c : Char) : Bool :=
  c = ' ' || c = '\t' || c = '\n' || c = '\r'

/-! ### Numbers -/

/-- The digits at the front, and the rest. -/
def readDigits (cs : List Char) : List (Fin 10) × List Char :=
  ((cs.takeWhile Char.isDigit).map Number.digitOf, cs.dropWhile Char.isDigit)

/-- The whole part of a number: a single zero, or digits that begin with another one. -/
def readWhole (cs : List Char) : Option (Nat × List Char) :=
  match readDigits cs with
  | ([], _) => none
  | (d :: ds, rest) =>
    if d.val = 0 ∧ ds ≠ [] then none else some (Number.ofDigits (d :: ds), rest)

/-- The digits behind a point, if a point comes next. -/
def readFraction (cs : List Char) : Option (List (Fin 10) × List Char) :=
  match cs with
  | '.' :: cs =>
    match readDigits cs with
    | ([], _) => none
    | (ds, rest) => some (ds, rest)
  | cs => some ([], cs)

/-- The sign of an exponent, one way or the other, and the rest. -/
def exponentSign (cs : List Char) : Int × List Char :=
  match cs with
  | '+' :: cs => (1, cs)
  | '-' :: cs => (-1, cs)
  | cs => (1, cs)

/-- The exponent, if an `e` comes next. -/
def readExponent (cs : List Char) : Option (Option Int × List Char) :=
  match cs with
  | c :: cs' =>
    if c = 'e' ∨ c = 'E' then
      match readDigits (exponentSign cs').2 with
      | ([], _) => none
      | (ds, rest) => some (some ((exponentSign cs').1 * Number.ofDigits ds), rest)
    else some (none, cs)
  | [] => some (none, [])

/-- A minus sign, if one comes next. -/
def readSign (cs : List Char) : Bool × List Char :=
  match cs with
  | '-' :: cs => (true, cs)
  | cs => (false, cs)

/-- A number at the front, and the rest. -/
def readNumber (cs : List Char) : Option (Number × List Char) :=
  let (negative, cs) := readSign cs
  match readWhole cs with
  | none => none
  | some (whole, cs) =>
    match readFraction cs with
    | none => none
    | some (fraction, cs) =>
      (readExponent cs).map fun r => (⟨negative, whole, fraction, r.1⟩, r.2)

theorem readDigits_length_le (cs : List Char) : (readDigits cs).2.length ≤ cs.length :=
  (List.dropWhile_sublist _).length_le

theorem readDigits_length_lt {cs : List Char} {d : Fin 10} {ds : List (Fin 10)} {rest : List Char}
    (h : readDigits cs = (d :: ds, rest)) : rest.length < cs.length := by
  obtain ⟨h₁, h₂⟩ := Prod.mk.inj h
  have key := congrArg List.length (List.takeWhile_append_dropWhile (p := Char.isDigit) (l := cs))
  have : (cs.takeWhile Char.isDigit).length = (d :: ds).length := by
    rw [← h₁, List.length_map]
  rw [List.length_append, h₂, this, List.length_cons] at key
  omega

theorem readWhole_length_lt {cs : List Char} {n : Nat} {rest : List Char}
    (h : readWhole cs = some (n, rest)) : rest.length < cs.length := by
  unfold readWhole at h
  split at h
  · simp at h
  · rename_i hd
    split at h
    · simp at h
    · obtain ⟨-, rfl⟩ := Prod.mk.inj (Option.some.inj h)
      exact readDigits_length_lt hd

theorem readFraction_length_le {cs : List Char} {ds : List (Fin 10)} {rest : List Char}
    (h : readFraction cs = some (ds, rest)) : rest.length ≤ cs.length := by
  unfold readFraction at h
  split at h
  · rename_i cs
    split at h
    · simp at h
    · rename_i hd
      obtain ⟨-, rfl⟩ := Prod.mk.inj (Option.some.inj h)
      have := readDigits_length_le cs
      rw [hd] at this
      exact Nat.le_succ_of_le this
  · obtain ⟨-, rfl⟩ := Prod.mk.inj (Option.some.inj h)
    exact Nat.le_refl _

theorem readExponent_length_le {cs : List Char} {e : Option Int} {rest : List Char}
    (h : readExponent cs = some (e, rest)) : rest.length ≤ cs.length := by
  unfold readExponent at h
  split at h
  · rename_i c cs'
    split at h
    · have le : (exponentSign cs').2.length ≤ cs'.length := by
        unfold exponentSign
        split <;> simp
      split at h
      · simp at h
      · rename_i hd
        obtain ⟨-, rfl⟩ := Prod.mk.inj (Option.some.inj h)
        have := readDigits_length_le (exponentSign cs').2
        rw [hd] at this
        simp only [List.length_cons] at this ⊢
        omega
    · obtain ⟨-, rfl⟩ := Prod.mk.inj (Option.some.inj h)
      exact Nat.le_refl _
  · obtain ⟨-, rfl⟩ := Prod.mk.inj (Option.some.inj h)
    exact Nat.le_refl _

theorem readSign_length_le (cs : List Char) : (readSign cs).2.length ≤ cs.length := by
  unfold readSign
  split <;> simp

theorem readNumber_length_lt {cs : List Char} {n : Number} {rest : List Char}
    (h : readNumber cs = some (n, rest)) : rest.length < cs.length := by
  unfold readNumber at h
  have sign := readSign_length_le cs
  simp only at h
  split at h
  · simp at h
  · rename_i hw
    have whole := readWhole_length_lt hw
    split at h
    · simp at h
    · rename_i hf
      have fraction := readFraction_length_le hf
      obtain ⟨⟨e, r⟩, he, heq⟩ := Option.map_eq_some_iff.1 h
      have exponent := readExponent_length_le he
      obtain ⟨-, rfl⟩ := Prod.mk.inj heq
      simp only
      omega

/-! ### String literals -/

/-- A part of a string literal: a character, or a surrogate given by its escape. -/
inductive Piece
  | char (c : Char)
  | surrogate (unit : Nat)
deriving DecidableEq, Repr

/-- The part of a literal that a 16-bit unit is. -/
def Piece.ofUnit (n : Nat) : Piece :=
  if 0xd800 ≤ n ∧ n ≤ 0xdfff then surrogate n else char (Char.ofNat n)

/-- The character of an escape with a single letter. -/
def escaped? (c : Char) : Option Char :=
  if c = '"' ∨ c = '\\' ∨ c = '/' then some c
  else if c = 'b' then some '\x08'
  else if c = 'f' then some '\x0c'
  else if c = 'n' then some '\n'
  else if c = 'r' then some '\r'
  else if c = 't' then some '\t'
  else none

/-- The parts of a string literal whose opening quote has been read, and the rest behind its closing
quote. -/
def readPieces : List Char → Option (List Piece × List Char)
  | [] => none
  | c :: cs =>
    if c = '"' then some ([], cs)
    else if c = '\\' then
      match cs with
      | 'u' :: h₁ :: h₂ :: h₃ :: h₄ :: cs =>
        match Text.hexNumber? 0 [h₁, h₂, h₃, h₄] with
        | some unit => (readPieces cs).map fun r => (.ofUnit unit :: r.1, r.2)
        | none => none
      | e :: cs =>
        match escaped? e with
        | some e => (readPieces cs).map fun r => (.char e :: r.1, r.2)
        | none => none
      | [] => none
    else if c.toNat < 0x20 then none
    else (readPieces cs).map fun r => (.char c :: r.1, r.2)

/-- A quote ends the literal. -/
theorem readPieces_quote (cs : List Char) : readPieces ('"' :: cs) = some ([], cs) := by
  rw [readPieces.eq_def]
  exact if_pos rfl

theorem readPieces_length_lt {cs : List Char} {ps : List Piece} {rest : List Char}
    (h : readPieces cs = some (ps, rest)) : rest.length < cs.length := by
  fun_induction readPieces cs generalizing ps rest <;> grind [Option.map_eq_some_iff]

/-- The text that the parts denote: every surrogate has to be half of a pair. -/
def joinPieces : List Piece → Option (List Char)
  | [] => some []
  | .char c :: ps => (joinPieces ps).map (c :: ·)
  | .surrogate high :: .surrogate low :: ps =>
    if high < 0xdc00 ∧ 0xdc00 ≤ low then
      (joinPieces ps).map (Char.ofNat (0x10000 + (high - 0xd800) * 0x400 + (low - 0xdc00)) :: ·)
    else none
  | .surrogate _ :: _ => none

/-- A string literal whose opening quote has been read, and the rest. -/
def readLiteral (cs : List Char) : Option (Literal × List Char) :=
  (readPieces cs).map fun r => ((joinPieces r.1).map String.ofList, r.2)

theorem readLiteral_length_lt {cs : List Char} {l : Literal} {rest : List Char}
    (h : readLiteral cs = some (l, rest)) : rest.length < cs.length := by
  obtain ⟨⟨ps, r⟩, hr, heq⟩ := Option.map_eq_some_iff.1 h
  obtain ⟨-, rfl⟩ := Prod.mk.inj heq
  exact readPieces_length_lt hr

/-! ### Tokens -/

/-- The token at the front, where no white space stands, and the rest. -/
def readToken (cs : List Char) : Option (Token × List Char) :=
  match cs with
  | [] => none
  | '[' :: cs => some (.openBracket, cs)
  | ']' :: cs => some (.closeBracket, cs)
  | '\x7b' :: cs => some (.openBrace, cs)
  | '\x7d' :: cs => some (.closeBrace, cs)
  | ',' :: cs => some (.comma, cs)
  | ':' :: cs => some (.colon, cs)
  | 'n' :: 'u' :: 'l' :: 'l' :: cs => some (.null, cs)
  | 't' :: 'r' :: 'u' :: 'e' :: cs => some (.bool true, cs)
  | 'f' :: 'a' :: 'l' :: 's' :: 'e' :: cs => some (.bool false, cs)
  | '"' :: cs => (readLiteral cs).map fun r => (.string r.1, r.2)
  | cs => (readNumber cs).map fun r => (.number r.1, r.2)

theorem readToken_length_lt {cs : List Char} {t : Token} {rest : List Char}
    (h : readToken cs = some (t, rest)) : rest.length < cs.length := by
  unfold readToken at h
  split at h
  case h_1 => simp at h
  case h_11 =>
    obtain ⟨⟨l, r⟩, hr, heq⟩ := Option.map_eq_some_iff.1 h
    obtain ⟨-, rfl⟩ := Prod.mk.inj heq
    exact Nat.lt_succ_of_lt (readLiteral_length_lt hr)
  case h_12 =>
    obtain ⟨⟨n, r⟩, hr, heq⟩ := Option.map_eq_some_iff.1 h
    obtain ⟨-, rfl⟩ := Prod.mk.inj heq
    exact readNumber_length_lt hr
  all_goals
    obtain ⟨-, rfl⟩ := Prod.mk.inj (Option.some.inj h)
    simp only [List.length_cons]
    omega

/-- The tokens of a text; nothing when some part of it is none. -/
def tokens (cs : List Char) : Option (List Token) :=
  match cs with
  | [] => some []
  | c :: cs =>
    if isSpace c then tokens cs
    else
      match h : readToken (c :: cs) with
      | none => none
      | some (t, rest) =>
        have := readToken_length_lt h
        (tokens rest).map (t :: ·)
termination_by cs.length
decreasing_by all_goals simp only [List.length_cons] at *; omega

end LedgerSearch.Json
