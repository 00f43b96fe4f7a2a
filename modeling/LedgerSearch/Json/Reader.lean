import LedgerSearch.Json.Token

/-!
# `LedgerSearch.Json.Reader`: from a JSON text to its value

The grammar of the standard over the tokens of a text. Nothing may follow the value. There is no
limit to nesting.
-/

set_option autoImplicit false

namespace LedgerSearch.Json

/-- What a rule of the grammar gives: a result and the rest, which is shorter. -/
abbrev Read (α : Type) (ts : List Token) : Type :=
  Option (α × { rest : List Token // rest.length < ts.length })

mutual

/-- A value at the front of the tokens. -/
def readValue (ts : List Token) : Read Value ts :=
  match ts with
  | .null :: rest => some (.null, ⟨rest, by simp⟩)
  | .bool b :: rest => some (.bool b, ⟨rest, by simp⟩)
  | .number n :: rest => some (.number n, ⟨rest, by simp⟩)
  | .string l :: rest => some (.string l, ⟨rest, by simp⟩)
  | .openBracket :: .closeBracket :: rest =>
    some (.array [], ⟨rest, by simp only [List.length_cons]; omega⟩)
  | .openBracket :: rest =>
    match readItems rest with
    | none => none
    | some (items, ⟨rest', h⟩) =>
      some (.array items, ⟨rest', by simp only [List.length_cons]; omega⟩)
  | .openBrace :: .closeBrace :: rest =>
    some (.object [], ⟨rest, by simp only [List.length_cons]; omega⟩)
  | .openBrace :: rest =>
    match readMembers rest with
    | none => none
    | some (members, ⟨rest', h⟩) =>
      some (.object members, ⟨rest', by simp only [List.length_cons]; omega⟩)
  | _ => none
termination_by (ts.length, 0)

/-- The items of an array, from the first one to the closing bracket. -/
def readItems (ts : List Token) : Read (List Value) ts :=
  match readValue ts with
  | none => none
  | some (item, ⟨rest, h⟩) =>
    match rest with
    | .closeBracket :: rest => some ([item], ⟨rest, by simp only [List.length_cons] at h; omega⟩)
    | .comma :: rest =>
      have h : rest.length < ts.length := by simp only [List.length_cons] at h; omega
      match readItems rest with
      | none => none
      | some (items, ⟨rest', h'⟩) => some (item :: items, ⟨rest', by omega⟩)
    | _ => none
termination_by (ts.length, 1)

/-- The members of an object, from the first one to the closing brace. -/
def readMembers (ts : List Token) : Read (List (Literal × Value)) ts :=
  match ts with
  | .string key :: .colon :: rest =>
    match readValue rest with
    | none => none
    | some (value, ⟨rest', h⟩) =>
      match rest' with
      | .closeBrace :: rest'' =>
        some ([(key, value)], ⟨rest'', by simp only [List.length_cons] at h ⊢; omega⟩)
      | .comma :: rest'' =>
        have h : rest''.length < rest.length := by simp only [List.length_cons] at h; omega
        match readMembers rest'' with
        | none => none
        | some (members, ⟨rest₃, h'⟩) =>
          some ((key, value) :: members, ⟨rest₃, by simp only [List.length_cons]; omega⟩)
      | _ => none
  | _ => none
termination_by (ts.length, 0)

end

/-- The value that a text denotes; nothing when it denotes none. -/
def parse (text : String) : Option Value :=
  match tokens text.toList with
  | none => none
  | some ts =>
    match readValue ts with
    | some (value, ⟨[], _⟩) => some value
    | _ => none

end LedgerSearch.Json
