import LedgerSearch.Text.CaseTable

/-!
# `LedgerSearch.Text.LowerCase`: lower-casing as matching needs it

Search ignores case by lower-casing both the words of a query and the texts of a transaction. The
lower-case form is Unicode's full mapping, independent of any language. Two characters are not
mapped one to one on their own:

* U+0130, the dotted capital I, becomes two characters, `i` and a combining dot;
* U+03A3, the capital sigma, becomes `ς` at the end of a word and `σ` elsewhere. A sigma ends a word
  when a cased letter comes before it and none after it, case-ignorable characters looked through
  on both sides.

So the lower-case form of a text is not made of the forms of its parts: a text that ends in a sigma
has another form alone than in front of a further letter. `lowerAfter` carries the one fact about
the left context that the sigma rule needs.
-/

set_option autoImplicit false

namespace LedgerSearch.Text

/-- The character is a letter that has a case. -/
def isCased (c : Char) : Bool :=
  casedRanges.has c

/-- The character is looked through when the sigma rule looks for a neighbour. -/
def isCaseIgnorable (c : Char) : Bool :=
  caseIgnorableRanges.has c

/-- The lower-case form of a single character, without regard to its neighbours. ASCII, by far the
most frequent, is answered before the table is asked. -/
def lowerChar (c : Char) : List Char :=
  if c.toNat < 0x80 then [c.toLower]
  else if c.toNat = 0x130 then ['i', Char.ofNat 0x307]
  else
    match lowerRuns.find? (·.has c.toNat) with
    | some run => [Char.ofNat (c.toNat + run.shift).toNat]
    | none => [c]

/-- A cased letter comes next, case-ignorable characters looked through. -/
def casedNext (cs : List Char) : Bool :=
  match cs.dropWhile isCaseIgnorable with
  | [] => false
  | c :: _ => isCased c

/-- The lower-case form of a text that stands after a cased letter (`afterCased`) or does not, again
with case-ignorable characters looked through. -/
def lowerAfter (afterCased : Bool) : List Char → List Char
  | [] => []
  | c :: cs =>
    let form := if c = 'Σ' then [if afterCased && !casedNext cs then 'ς' else 'σ'] else lowerChar c
    form ++ lowerAfter (if isCaseIgnorable c then afterCased else isCased c) cs

@[simp]
theorem lowerAfter_nil (afterCased : Bool) : lowerAfter afterCased [] = [] :=
  rfl

theorem lowerAfter_cons (afterCased : Bool) (c : Char) (cs : List Char) :
    lowerAfter afterCased (c :: cs)
      = (if c = 'Σ' then [if afterCased && !casedNext cs then 'ς' else 'σ'] else lowerChar c)
        ++ lowerAfter (if isCaseIgnorable c then afterCased else isCased c) cs :=
  rfl

/-- The lower-case form of a text. -/
def lower (s : String) : String :=
  String.ofList (lowerAfter false s.toList)

/-- The lower-case form of a text, which is left untouched when no character of it changes. Title
case counts: `ǅ` is no capital, yet it has a lower-case form. -/
def fold (s : String) : String :=
  if s.toList.any fun c => lowerChar c != [c] then lower s else s

end LedgerSearch.Text
