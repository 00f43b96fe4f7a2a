import LedgerSearch.Json.Number

/-!
# `LedgerSearch.Json.Printer`: from a value to its JSON text

Two layouts of one text: on a single line without white space (`compact`), and with one member or
item a line, two columns further in for each level (`pretty`). Strings escape what the standard
requires and nothing else. An exponent always carries its sign.
-/

set_option autoImplicit false

namespace LedgerSearch.Json

/-- The written form of a number. -/
def Number.render (n : Number) : String :=
  (if n.negative then "-" else "") ++ toString n.whole
    ++ (if n.fraction = [] then ""
        else "." ++ String.ofList (n.fraction.map fun d => Nat.digitChar d.val))
    ++ (match n.exponent with
        | none => ""
        | some e => (if e < 0 then "e-" else "e+") ++ toString e.natAbs)

/-- How a character is written in a string literal. -/
def escapeChar (c : Char) : List Char :=
  if c = '"' then ['\\', '"']
  else if c = '\\' then ['\\', '\\']
  else if c = '\x08' then ['\\', 'b']
  else if c = '\x0c' then ['\\', 'f']
  else if c = '\n' then ['\\', 'n']
  else if c = '\r' then ['\\', 'r']
  else if c = '\t' then ['\\', 't']
  else if c.toNat < 0x20 then
    ['\\', 'u', '0', '0', Nat.digitChar (c.toNat / 16), Nat.digitChar (c.toNat % 16)]
  else [c]

/-- The string literal of a text. -/
def quote (s : String) : String :=
  String.ofList ('"' :: (s.toList.flatMap escapeChar ++ ['"']))

/-- A literal that denotes no text is written as the replacement character. -/
def Literal.render (l : Literal) : String :=
  quote (l.getD "\ufffd")

mutual

/-- The text on one line. -/
def Value.compact : Value → String
  | .null => "null"
  | .bool b => if b then "true" else "false"
  | .number n => n.render
  | .string l => Literal.render l
  | .array items => "[" ++ String.intercalate "," (compactItems items) ++ "]"
  | .object members => "\x7b" ++ String.intercalate "," (compactMembers members) ++ "\x7d"

/-- The items of an array, each on one line. -/
def compactItems : List Value → List String
  | [] => []
  | item :: items => item.compact :: compactItems items

/-- The members of an object, each on one line. -/
def compactMembers : List (Literal × Value) → List String
  | [] => []
  | (key, value) :: members =>
    (Literal.render key ++ ":" ++ value.compact) :: compactMembers members

end

/-- A line break and the margin of a level. -/
def lineBreak (level : Nat) : String :=
  String.ofList ('\n' :: List.replicate (2 * level) ' ')

/-- Items between two brackets, one a line; nothing between the brackets when there is none. -/
def layOut (opening closing : String) (level : Nat) (items : List String) : String :=
  if items.isEmpty then opening ++ closing
  else
    opening ++ lineBreak (level + 1) ++ String.intercalate ("," ++ lineBreak (level + 1)) items
      ++ lineBreak level ++ closing

mutual

/-- The text with a line for each item and member, at the given level. -/
def Value.prettyAt (level : Nat) : Value → String
  | .null => "null"
  | .bool b => if b then "true" else "false"
  | .number n => n.render
  | .string l => Literal.render l
  | .array items => layOut "[" "]" level (prettyItems (level + 1) items)
  | .object members => layOut "\x7b" "\x7d" level (prettyMembers (level + 1) members)

/-- The items of an array at the given level. -/
def prettyItems (level : Nat) : List Value → List String
  | [] => []
  | item :: items => item.prettyAt level :: prettyItems level items

/-- The members of an object at the given level. -/
def prettyMembers (level : Nat) : List (Literal × Value) → List String
  | [] => []
  | (key, value) :: members =>
    (Literal.render key ++ ": " ++ value.prettyAt level) :: prettyMembers level members

end

/-- The text with a line for each item and member. -/
def Value.pretty (v : Value) : String :=
  v.prettyAt 0

end LedgerSearch.Json
