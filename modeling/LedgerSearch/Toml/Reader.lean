import LedgerSearch.Toml.Scalar
import LedgerSearch.Toml.Table
import LedgerSearch.Toml.Token

/-!
# `LedgerSearch.Toml.Reader`: from a TOML text to its table

The grammar over the tokens of a text: each line holds a header, an entry or nothing. Arrays and
inline tables may be spread over lines, may end with a comma and may be nested at most `maxNesting`
deep, and a dotted key has at most `maxKeyParts` parts. The statements are then put together to one
table, which fails where two of them conflict.
-/

set_option autoImplicit false

namespace LedgerSearch.Toml

/-- How deep arrays and inline tables may be nested. -/
def maxNesting : Nat := 80

/-- How many parts a dotted key may have. -/
def maxKeyParts : Nat := 80

/-! ### Blanks and keys -/

/-- The tokens without the space at their front. -/
def skipSpace : List Token → List Token
  | .space _ :: ts => skipSpace ts
  | ts => ts

/-- The tokens without the spaces and line breaks at their front. -/
def skipBlank : List Token → List Token
  | .space _ :: ts | .lineBreak :: ts => skipBlank ts
  | ts => ts

theorem skipSpace_length_le (ts : List Token) : (skipSpace ts).length ≤ ts.length := by
  fun_induction skipSpace ts <;> grind

theorem skipBlank_length_le (ts : List Token) : (skipBlank ts).length ≤ ts.length := by
  fun_induction skipBlank ts <;> grind

/-- The character can stand in a key without quotes. -/
def isKeyChar (c : Char) : Bool :=
  c.isAlphanum || c = '-' || c = '_'

/-- The key that a token is. -/
def keyOf? : Token → Option String
  | .bare cs => if cs.all isKeyChar then some (String.ofList cs) else none
  | .quoted q => if q.multiline then none else some q.text
  | _ => none

/-- What a rule of the grammar gives: a result and the rest, which is shorter. -/
abbrev Read (α : Type) (ts : List Token) : Type :=
  Option (α × { rest : List Token // rest.length < ts.length })

/-- The parts of a key at the front, with the space behind it. The parts of a dotted key stand on
one line. -/
def readKeyParts (ts : List Token) : Read (List String) ts :=
  match ts with
  | [] => none
  | t :: ts =>
    match keyOf? t with
    | none => none
    | some key =>
      match skipSpace ts, skipSpace_length_le ts with
      | .dot :: rest, h =>
        have h' := skipSpace_length_le rest
        have : (skipSpace rest).length < ts.length := by simp only [List.length_cons] at h; omega
        match readKeyParts (skipSpace rest) with
        | none => none
        | some (path, ⟨rest', h⟩) =>
          some (key :: path, ⟨rest', by simp only [List.length_cons]; omega⟩)
      | rest, h => some ([key], ⟨rest, by simp only [List.length_cons]; omega⟩)
termination_by ts.length

/-- A key at the front, possibly dotted, with the space behind it. -/
def readKey (ts : List Token) : Read (List String) ts :=
  match readKeyParts ts with
  | none => none
  | some (path, rest) => if path.length ≤ maxKeyParts then some (path, rest) else none

/-! ### Values -/

/-- What is written without quotes, put together over points. A date may go on with a time behind a
single space. -/
def joinBare : List Token → List Char × List Token
  | .bare cs :: ts =>
    let (rest, ts') := joinBare ts
    (cs ++ rest, ts')
  | .dot :: ts =>
    let (rest, ts') := joinBare ts
    ('.' :: rest, ts')
  | ts => ([], ts)

theorem joinBare_length_le (ts : List Token) : (joinBare ts).2.length ≤ ts.length := by
  fun_induction joinBare ts <;> grind

/-- The first characters are a date, and a time stands behind a single space. -/
def dateAndTime? (ts : List Token) : Option (List Char × List Token) :=
  match ts with
  | .bare date :: .space [' '] :: .bare (c :: time) :: rest =>
    if skipDate date = some [] ∧ c.isDigit then
      let (fraction, rest') := joinBare rest
      some (date ++ ' ' :: c :: time ++ fraction, rest')
    else none
  | _ => none

theorem dateAndTime?_length_lt {ts : List Token} {cs : List Char} {rest : List Token}
    (h : dateAndTime? ts = some (cs, rest)) : rest.length < ts.length := by
  unfold dateAndTime? at h
  split at h
  · rename_i rest'
    split at h
    · have := joinBare_length_le rest'
      obtain ⟨-, rfl⟩ := Prod.mk.inj (Option.some.inj h)
      simp only [List.length_cons]
      omega
    · simp at h
  · simp at h

/-- What is written without quotes at the front: a date with a time behind it, or all up to the next
mark that is no point. -/
def bareText (ts : List Token) : List Char × List Token :=
  (dateAndTime? ts).getD (joinBare ts)

theorem bareText_length_lt {t : Token} {ts : List Token}
    (ht : (∃ cs, t = .bare cs) ∨ t = .dot) : (bareText (t :: ts)).2.length < (t :: ts).length := by
  unfold bareText
  cases hd : dateAndTime? (t :: ts) with
  | none =>
    have := joinBare_length_le ts
    rcases ht with ⟨cs, rfl⟩ | rfl <;>
      simp only [Option.getD_none, joinBare, List.length_cons] <;> omega
  | some r => exact dateAndTime?_length_lt hd

/-- A scalar without quotes at the front. -/
def readBare (t : Token) (ts : List Token) (ht : (∃ cs, t = .bare cs) ∨ t = .dot) :
    Read Value (t :: ts) :=
  match readScalar (bareText (t :: ts)).1 with
  | none => none
  | some v => some (v, ⟨(bareText (t :: ts)).2, bareText_length_lt ht⟩)

mutual

/-- A value at the front, nested at most `levels` deep. -/
def readValue (levels : Nat) (ts : List Token) : Read Value ts :=
  match ts with
  | .quoted q :: rest => some (.string q.text, ⟨rest, by simp⟩)
  | .openBracket :: rest =>
    match levels with
    | 0 => none
    | levels + 1 =>
      match readItems levels rest with
      | none => none
      | some (items, ⟨rest', h⟩) =>
        some (.array items, ⟨rest', by simp only [List.length_cons]; omega⟩)
  | .openBrace :: rest =>
    match levels with
    | 0 => none
    | levels + 1 =>
      match readInline levels {} rest with
      | none => none
      | some (entries, ⟨rest', h⟩) =>
        some (.table entries, ⟨rest', by simp only [List.length_cons]; omega⟩)
  | .bare cs :: rest => readBare (.bare cs) rest (.inl ⟨cs, rfl⟩)
  | .dot :: rest => readBare .dot rest (.inr rfl)
  | _ => none
termination_by (levels, ts.length)

/-- The items of an array up to its closing bracket. -/
def readItems (levels : Nat) (ts : List Token) : Read (List Value) ts :=
  match skipBlank ts, skipBlank_length_le ts with
  | .closeBracket :: rest, h => some ([], ⟨rest, by simp only [List.length_cons] at h; omega⟩)
  | ts', h =>
    match readValue levels ts' with
    | none => none
    | some (item, ⟨rest, h₁⟩) =>
      match skipBlank rest, skipBlank_length_le rest with
      | .closeBracket :: rest', h₂ =>
        some ([item], ⟨rest', by simp only [List.length_cons] at h₂; omega⟩)
      | .comma :: rest', h₂ =>
        have h₃ : rest'.length < ts.length := by simp only [List.length_cons] at h₂; omega
        match readItems levels rest' with
        | none => none
        | some (items, ⟨rest'', h₄⟩) => some (item :: items, ⟨rest'', by omega⟩)
      | _, _ => none
termination_by (levels, ts.length + 1)

/-- The entries of an inline table up to its closing brace, added to those before them. The sign
behind a key and the value behind the sign may each stand on a later line. -/
def readInline (levels : Nat) (a : Assembly) (ts : List Token) : Read (List (String × Value)) ts :=
  match skipBlank ts, skipBlank_length_le ts with
  | .closeBrace :: rest, h =>
    some (entriesToValues a.entries, ⟨rest, by simp only [List.length_cons] at h; omega⟩)
  | ts', h =>
    match readKey ts' with
    | none => none
    | some (path, ⟨rest, h₁⟩) =>
      match skipBlank rest, skipBlank_length_le rest with
      | .equals :: rest', h₂ =>
        have h₃ := skipBlank_length_le rest'
        have h₄ : rest'.length < ts.length := by simp only [List.length_cons] at h₂; omega
        match readValue levels (skipBlank rest') with
        | none => none
        | some (v, ⟨rest₂, h₅⟩) =>
          match a.add (.entry path v) with
          | none => none
          | some a =>
            match skipBlank rest₂, skipBlank_length_le rest₂ with
            | .closeBrace :: rest₃, h₆ =>
              some (entriesToValues a.entries,
                ⟨rest₃, by simp only [List.length_cons] at h₆; omega⟩)
            | .comma :: rest₃, h₆ =>
              have h₇ : rest₃.length < ts.length := by simp only [List.length_cons] at h₆; omega
              match readInline levels a rest₃ with
              | none => none
              | some (entries, ⟨rest₄, h₈⟩) => some (entries, ⟨rest₄, by omega⟩)
            | _, _ => none
      | _, _ => none
termination_by (levels, ts.length + 1)

end

/-! ### Statements -/

/-- The statement at the front of a line. -/
def readStatement (ts : List Token) : Read Statement ts :=
  match ts with
  | .openBracket :: .openBracket :: rest =>
    have h := skipSpace_length_le rest
    match readKey (skipSpace rest) with
    | some (path, ⟨.closeBracket :: .closeBracket :: rest', h'⟩) =>
      some (.element path, ⟨rest', by simp only [List.length_cons] at h' ⊢; omega⟩)
    | _ => none
  | .openBracket :: rest =>
    have h := skipSpace_length_le rest
    match readKey (skipSpace rest) with
    | some (path, ⟨.closeBracket :: rest', h'⟩) =>
      some (.table path, ⟨rest', by simp only [List.length_cons] at h' ⊢; omega⟩)
    | _ => none
  | ts =>
    match readKey ts with
    | some (path, ⟨.equals :: rest, h⟩) =>
      have h' := skipSpace_length_le rest
      match readValue maxNesting (skipSpace rest) with
      | some (v, ⟨rest', h''⟩) =>
        some (.entry path v, ⟨rest', by simp only [List.length_cons] at h; omega⟩)
      | none => none
    | _ => none

/-- The statements of a file, in order. Each ends at a line break or at the end of the file. -/
def readStatements (ts : List Token) : Option (List Statement) :=
  match ts with
  | [] => some []
  | .space _ :: ts | .lineBreak :: ts => readStatements ts
  | t :: ts =>
    match readStatement (t :: ts) with
    | none => none
    | some (s, ⟨rest, h⟩) =>
      match skipSpace rest, skipSpace_length_le rest with
      | [], _ => some [s]
      | .lineBreak :: rest', h' =>
        have : rest'.length < ts.length + 1 := by simp only [List.length_cons] at h h'; omega
        (readStatements rest').map (s :: ·)
      | _, _ => none
termination_by ts.length
decreasing_by all_goals simp only [List.length_cons] at *; omega

/-- The table that a text denotes; nothing when it denotes none. -/
def parse (text : String) : Option (List (String × Value)) := do
  let ts ← tokens (dropEncodingMark text.toList)
  assemble (← readStatements ts)

end LedgerSearch.Toml
