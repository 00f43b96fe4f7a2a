import LedgerSearch.Json.Reader
import LedgerSearch.Proofs.Json.Token
import Mathlib.Data.List.Forall2

/-!
# `LedgerSearch.Proofs.Json.RoundTrip`: a value that is written out is read back

The reader works in two steps, and so does the proof. A value has its tokens (`Value.tokens`). The
text that the printer lays out, at whatever level, is read as these tokens
(`Value.IsText.spells_prettyAt`), and the grammar makes the value of them again
(`Value.IsText.reads`). `Value.IsText.parse_prettyAt` puts the two together.

A literal may denote no text. The printer has nothing to write for such a one and puts a replacement
character, so the results are about values all of whose literals denote texts (`Value.IsText`). Both
steps are inductions on that.
-/

set_option autoImplicit false

namespace LedgerSearch.Json

/-! ### The tokens of a value -/

mutual

/-- The tokens of a value. -/
def Value.tokens : Value → List Token
  | .null => [.null]
  | .bool b => [.bool b]
  | .number n => [.number n]
  | .string l => [.string l]
  | .array items => .openBracket :: ([.comma].intercalate (itemTokens items) ++ [.closeBracket])
  | .object members =>
    .openBrace :: ([.comma].intercalate (memberTokens members) ++ [.closeBrace])

/-- The tokens of the items of an array. -/
def itemTokens : List Value → List (List Token)
  | [] => []
  | item :: items => item.tokens :: itemTokens items

/-- The tokens of the members of an object. -/
def memberTokens : List (Literal × Value) → List (List Token)
  | [] => []
  | (key, value) :: members => (.string key :: .colon :: value.tokens) :: memberTokens members

end

/-- The tokens of a key with its value. -/
def tokensOfMember (m : Literal × Value) : List Token :=
  .string m.1 :: .colon :: m.2.tokens

/-- Every literal of the value denotes a text. -/
inductive Value.IsText : Value → Prop
  | null : Value.null.IsText
  | bool (b : Bool) : (Value.bool b).IsText
  | number (n : Number) : (Value.number n).IsText
  | text (s : String) : (Value.text s).IsText
  | array {items : List Value} (hitems : ∀ v ∈ items, v.IsText) : (Value.array items).IsText
  | object {members : List (Literal × Value)} (hkeys : ∀ m ∈ members, m.1.isSome = true)
      (hvalues : ∀ m ∈ members, m.2.IsText) : (Value.object members).IsText

/-! ### From the text to the tokens -/

section
variable {gap : List Char} {level : Nat}

/-- A line break is white space. -/
theorem isSpace_of_mem_lineBreak (level : Nat) :
    ∀ c ∈ (lineBreak level).toList, isSpace c = true := by
  intro c h
  rw [lineBreak, String.toList_ofList] at h
  rcases List.mem_cons.mp h with rfl | h
  · rfl
  · rw [List.eq_of_mem_replicate h]
    rfl

/-- A line break does not go on with a number. -/
theorem delimits_lineBreak (cs : List Char) : Delimits ((lineBreak level).toList ++ cs) := by
  rw [lineBreak, String.toList_ofList]
  intro c hc
  obtain rfl : '\n' = c := Option.some.inj hc
  decide

/-- Pieces with a comma and white space between them. -/
theorem spells_intercalate {pieces : List (List Char)} {tss : List (List Token)}
    (hgap : ∀ c ∈ gap, isSpace c = true) (h : List.Forall₂ Spells pieces tss) (hne : pieces ≠ []) :
    Spells ((',' :: gap).intercalate pieces) ([Token.comma].intercalate tss) := by
  induction h with
  | nil => exact absurd rfl hne
  | @cons piece ts pieces tss hpiece h ih =>
      cases h with
      | nil => simpa using hpiece
      | cons hnext hmore =>
          have hcomma := marks_comma.append ((ih (List.cons_ne_nil _ _)).gap hgap)
          rw [List.intercalate_cons_cons, List.intercalate_cons_cons, List.append_assoc,
            List.append_assoc]
          refine hpiece.append hcomma fun rest => ?_
          intro c hc
          obtain rfl : ',' = c := Option.some.inj hc
          decide

/-- Pieces that are laid out between two marks. -/
theorem spells_layOut {opening closing : String} {t u : Token} {pieces : List String}
    {tss : List (List Token)} (hopening : Marks opening.toList t)
    (hclosing : Marks closing.toList u)
    (h : List.Forall₂ (fun s ts => Spells s.toList ts) pieces tss) (level : Nat) :
    Spells (layOut opening closing level pieces).toList
      (t :: ([Token.comma].intercalate tss ++ [u])) := by
  rw [layOut]
  split
  case isTrue hnil =>
    rw [List.isEmpty_iff] at hnil
    subst hnil
    obtain rfl := List.forall₂_nil_left_iff.mp h
    rw [String.toList_append]
    exact hopening.append hclosing.spells
  case isFalse hne =>
    have hpieces : List.Forall₂ Spells (pieces.map String.toList) tss :=
      List.forall₂_map_left_iff.mpr h
    have hitems := spells_intercalate (isSpace_of_mem_lineBreak (level + 1)) hpieces
      (by simpa using hne)
    have hend := hclosing.spells.gap (isSpace_of_mem_lineBreak level)
    have hseparator : ("," ++ lineBreak (level + 1)).toList
        = ',' :: (lineBreak (level + 1)).toList :=
      String.toList_append
    simp only [String.toList_append, String.toList_intercalate, List.append_assoc]
    rw [← String.toList_append, hseparator]
    refine hopening.append (.gap (isSpace_of_mem_lineBreak _) (hitems.append hend ?_))
    intro rest
    rw [List.append_assoc]
    exact delimits_lineBreak _

end

theorem prettyItems_eq_map (level : Nat) (items : List Value) :
    prettyItems level items = items.map (Value.prettyAt level) := by
  induction items with
  | nil => rfl
  | cons item items ih => rw [prettyItems, ih, List.map_cons]

theorem prettyMembers_eq_map (level : Nat) (members : List (Literal × Value)) :
    prettyMembers level members
      = members.map fun m => Literal.render m.1 ++ ": " ++ m.2.prettyAt level := by
  induction members with
  | nil => rfl
  | cons m members ih => rw [prettyMembers, ih, List.map_cons]

theorem itemTokens_eq_map (items : List Value) : itemTokens items = items.map Value.tokens := by
  induction items with
  | nil => rfl
  | cons item items ih => rw [itemTokens, ih, List.map_cons]

theorem memberTokens_eq_map (members : List (Literal × Value)) :
    memberTokens members = members.map tokensOfMember := by
  induction members with
  | nil => rfl
  | cons m members ih => rw [memberTokens, ih, List.map_cons, tokensOfMember]

theorem Value.tokens_array (items : List Value) : (Value.array items).tokens
    = .openBracket :: ([.comma].intercalate (items.map Value.tokens) ++ [.closeBracket]) := by
  rw [Value.tokens, itemTokens_eq_map]

theorem Value.tokens_object (members : List (Literal × Value)) : (Value.object members).tokens
    = .openBrace :: ([.comma].intercalate (members.map tokensOfMember) ++ [.closeBrace]) := by
  rw [Value.tokens, memberTokens_eq_map]

/-- A key with its value. -/
theorem spells_member {key : Literal} {text : String} {ts : List Token}
    (hkey : key.isSome = true) (h : Spells text.toList ts) :
    Spells (Literal.render key ++ ": " ++ text).toList (.string key :: .colon :: ts) := by
  obtain ⟨name, rfl⟩ := Option.isSome_iff_exists.mp hkey
  have hspace : ∀ c ∈ [' '], isSpace c = true := List.forall_mem_singleton.mpr rfl
  rw [String.toList_append, String.toList_append, List.append_assoc]
  exact (marks_quote name).append (marks_colon.append (h.gap hspace))

/-- **What the printer lays out is read as the tokens of the value**, at every level. -/
theorem Value.IsText.spells_prettyAt {v : Value} (h : v.IsText) (level : Nat) :
    Spells (v.prettyAt level).toList v.tokens := by
  induction h generalizing level with
  | null => exact marks_null.spells
  | bool b => exact (marks_bool b).spells
  | number n => exact spells_number n
  | text s => exact (marks_quote s).spells
  | @array items hitems ih =>
      rw [Value.prettyAt, Value.tokens_array, prettyItems_eq_map]
      refine spells_layOut marks_openBracket marks_closeBracket ?_ level
      rw [List.forall₂_map_left_iff, List.forall₂_map_right_iff, List.forall₂_same]
      exact fun v hv => ih v hv (level + 1)
  | @object members hkeys hvalues ih =>
      rw [Value.prettyAt, Value.tokens_object, prettyMembers_eq_map]
      refine spells_layOut marks_openBrace marks_closeBrace ?_ level
      rw [List.forall₂_map_left_iff, List.forall₂_map_right_iff, List.forall₂_same]
      exact fun m hm => spells_member (hkeys m hm) (ih m hm (level + 1))

/-! ### From the tokens to the value -/

/-- What a rule of the grammar gives, without the fact that the rest is shorter. -/
def Read.plain {α : Type} {ts : List Token} (r : Read α ts) : Option (α × List Token) :=
  r.map fun r => (r.1, r.2.val)

/-- No value begins with a closing bracket. -/
theorem Value.exists_tokens (v : Value) : ∃ t ts, v.tokens = t :: ts ∧ t ≠ .closeBracket := by
  cases v <;> rw [Value.tokens] <;> exact ⟨_, _, rfl, nofun⟩

/-- An array that does not end at once holds items. -/
theorem readValue_openBracket {ts : List Token} (h : .closeBracket ∉ ts.head?) :
    (readValue (.openBracket :: ts)).plain
      = (readItems ts).plain.map fun r => (.array r.1, r.2) := by
  rw [readValue]
  · rcases readItems ts with _ | ⟨items, rest, hrest⟩ <;> rfl
  · rintro rest rfl
    exact h rfl

/-- An object that does not end at once holds members. -/
theorem readValue_openBrace {ts : List Token} (h : .closeBrace ∉ ts.head?) :
    (readValue (.openBrace :: ts)).plain
      = (readMembers ts).plain.map fun r => (.object r.1, r.2) := by
  rw [readValue]
  · rcases readMembers ts with _ | ⟨members, rest, hrest⟩ <;> rfl
  · rintro rest rfl
    exact h rfl

/-- The last item of an array. -/
theorem readItems_last {ts rest : List Token} {v : Value}
    (h : (readValue ts).plain = some (v, .closeBracket :: rest)) :
    (readItems ts).plain = some ([v], rest) := by
  obtain ⟨⟨w, us, hus⟩, hread, heq⟩ := Option.map_eq_some_iff.mp h
  obtain ⟨rfl, rfl⟩ := Prod.mk.inj heq
  rw [readItems, hread]
  rfl

/-- An item with more behind it. -/
theorem readItems_more {ts rest : List Token} {v : Value}
    (h : (readValue ts).plain = some (v, .comma :: rest)) :
    (readItems ts).plain = (readItems rest).plain.map fun r => (v :: r.1, r.2) := by
  obtain ⟨⟨w, us, hus⟩, hread, heq⟩ := Option.map_eq_some_iff.mp h
  obtain ⟨rfl, rfl⟩ := Prod.mk.inj heq
  rw [readItems, hread]
  dsimp only
  rcases readItems rest with _ | ⟨items, rest', hrest'⟩ <;> rfl

/-- The last member of an object. -/
theorem readMembers_last {ts rest : List Token} {key : Literal} {v : Value}
    (h : (readValue ts).plain = some (v, .closeBrace :: rest)) :
    (readMembers (.string key :: .colon :: ts)).plain = some ([(key, v)], rest) := by
  obtain ⟨⟨w, us, hus⟩, hread, heq⟩ := Option.map_eq_some_iff.mp h
  obtain ⟨rfl, rfl⟩ := Prod.mk.inj heq
  rw [readMembers, hread]
  rfl

/-- A member with more behind it. -/
theorem readMembers_more {ts rest : List Token} {key : Literal} {v : Value}
    (h : (readValue ts).plain = some (v, .comma :: rest)) :
    (readMembers (.string key :: .colon :: ts)).plain
      = (readMembers rest).plain.map fun r => ((key, v) :: r.1, r.2) := by
  obtain ⟨⟨w, us, hus⟩, hread, heq⟩ := Option.map_eq_some_iff.mp h
  obtain ⟨rfl, rfl⟩ := Prod.mk.inj heq
  rw [readMembers, hread]
  dsimp only
  rcases readMembers rest with _ | ⟨members, rest', hrest'⟩ <;> rfl

/-- The value is made of its tokens, whatever stands behind them. -/
def Value.Reads (v : Value) : Prop :=
  ∀ rest, (readValue (v.tokens ++ rest)).plain = some (v, rest)

/-- The items of an array, one after another. -/
theorem readItems_tokens {items : List Value} (h : ∀ v ∈ items, v.Reads) (hne : items ≠ [])
    (rest : List Token) :
    (readItems ([.comma].intercalate (items.map Value.tokens) ++ .closeBracket :: rest)).plain
      = some (items, rest) := by
  induction items with
  | nil => exact absurd rfl hne
  | cons v items ih =>
      have hv := h v List.mem_cons_self
      cases items with
      | nil =>
          rw [List.map_singleton, List.intercalate_singleton]
          exact readItems_last (hv _)
      | cons w items =>
          have hrest := ih (fun u hu => h u (List.mem_cons_of_mem v hu)) (List.cons_ne_nil _ _)
          rw [List.map_cons, List.map_cons, List.intercalate_cons_cons, ← List.map_cons,
            List.append_assoc, List.append_assoc, List.singleton_append, readItems_more (hv _),
            hrest, Option.map_some]

/-- The members of an object, one after another. -/
theorem readMembers_tokens {members : List (Literal × Value)} (h : ∀ m ∈ members, m.2.Reads)
    (hne : members ≠ []) (rest : List Token) :
    (readMembers ([.comma].intercalate (members.map tokensOfMember) ++ .closeBrace :: rest)).plain
      = some (members, rest) := by
  induction members with
  | nil => exact absurd rfl hne
  | cons m members ih =>
      have hm := h m List.mem_cons_self
      cases members with
      | nil =>
          rw [List.map_singleton, List.intercalate_singleton]
          exact readMembers_last (hm _)
      | cons m' members =>
          have hrest := ih (fun u hu => h u (List.mem_cons_of_mem m hu)) (List.cons_ne_nil _ _)
          rw [List.map_cons, List.map_cons, List.intercalate_cons_cons, ← List.map_cons,
            List.append_assoc, List.append_assoc, List.singleton_append]
          exact (readMembers_more (hm _)).trans (by rw [hrest, Option.map_some])

/-- The tokens of pieces begin with those of the first. -/
theorem head?_intercalate {tss : List (List Token)} {t : Token} (us : List Token)
    (hne : tss ≠ []) (h : ∀ ts ∈ tss, ts ≠ [] ∧ t ∉ ts.head?) :
    t ∉ ([Token.comma].intercalate tss ++ us).head? := by
  obtain ⟨ts, tss, rfl⟩ := List.exists_cons_of_ne_nil hne
  obtain ⟨hts, ht⟩ := h ts List.mem_cons_self
  obtain ⟨u, vs, rfl⟩ := List.exists_cons_of_ne_nil hts
  cases tss with
  | nil => simpa using ht
  | cons ts' tss => rwa [List.intercalate_cons_cons]

/-- **A value is made of its tokens.** -/
theorem Value.IsText.reads {v : Value} (h : v.IsText) : v.Reads := by
  induction h with
  | null => exact fun rest => by rw [Value.tokens, List.singleton_append, readValue]; rfl
  | bool b => exact fun rest => by rw [Value.tokens, List.singleton_append, readValue]; rfl
  | number n => exact fun rest => by rw [Value.tokens, List.singleton_append, readValue]; rfl
  | text s =>
      exact fun rest => by rw [Value.text, Value.tokens, List.singleton_append, readValue]; rfl
  | @array items hitems ih =>
      intro rest
      rw [Value.tokens_array, List.cons_append, List.append_assoc, List.singleton_append]
      by_cases hne : items = []
      case pos =>
        subst hne
        rw [List.map_nil, List.intercalate_nil, List.nil_append, readValue]
        rfl
      case neg =>
        rw [readValue_openBracket, readItems_tokens ih hne, Option.map_some]
        refine head?_intercalate _ (by simpa using hne) fun ts hts => ?_
        obtain ⟨v, -, rfl⟩ := List.mem_map.mp hts
        obtain ⟨t, us, hus, ht⟩ := v.exists_tokens
        rw [hus]
        exact ⟨List.cons_ne_nil _ _, fun h => ht (Option.some.inj h)⟩
  | @object members hkeys hvalues ih =>
      intro rest
      rw [Value.tokens_object, List.cons_append, List.append_assoc, List.singleton_append]
      by_cases hne : members = []
      case pos =>
        subst hne
        rw [List.map_nil, List.intercalate_nil, List.nil_append, readValue]
        rfl
      case neg =>
        rw [readValue_openBrace, readMembers_tokens ih hne, Option.map_some]
        refine head?_intercalate _ (by simpa using hne) fun ts hts => ?_
        obtain ⟨m, -, rfl⟩ := List.mem_map.mp hts
        exact ⟨List.cons_ne_nil _ _, by simp [tokensOfMember]⟩

/-! ### From the text to the value -/

/-- The text of tokens that make up one value denotes it. -/
theorem parse_of_tokens {text : String} {v : Value} (h : v.IsText)
    (htokens : tokens text.toList = some v.tokens) : parse text = some v := by
  have hread := h.reads []
  rw [List.append_nil] at hread
  obtain ⟨⟨w, us, hus⟩, hvalue, heq⟩ := Option.map_eq_some_iff.mp hread
  have hw : w = v := (Prod.mk.inj heq).1
  obtain rfl : us = [] := (Prod.mk.inj heq).2
  rw [parse, htokens]
  simp only [hvalue, hw]

/-- **A value that is written out is read back**, also with white space behind it. -/
theorem Value.IsText.parse_prettyAt {v : Value} (h : v.IsText) (level : Nat) {gap : String}
    (hgap : ∀ c ∈ gap.toList, isSpace c = true) : parse (v.prettyAt level ++ gap) = some v := by
  have hdelimits : Delimits gap.toList := by
    intro c hc
    have hspace : c = ' ' ∨ c = '\t' ∨ c = '\n' ∨ c = '\r' := by
      simpa [isSpace, or_assoc] using hgap c (List.mem_of_mem_head? hc)
    rcases hspace with rfl | rfl | rfl | rfl <;> decide
  refine parse_of_tokens h ?_
  rw [String.toList_append, h.spells_prettyAt level _ hdelimits, ← List.append_nil gap.toList,
    tokens_gap hgap, Json.tokens, Option.map_some, List.append_nil]

end LedgerSearch.Json
