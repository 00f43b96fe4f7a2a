import LedgerSearch.Proofs.Query.Lexer
import LedgerSearch.Proofs.Text.Bytes
import Mathlib.Data.List.Forall2

/-!
# `LedgerSearch.Proofs.Query.Tiling`: the tokens of a query cover it

What the lexer returns accounts for every character of the query. `lex_isLexing` says so: cut at the
offsets of its tokens, the query falls into the ways in which these tokens are written, each with
the blanks behind it, and the blanks in front of the first.

How a token is written (`Spells`) is said without the lexer. It takes the rest of the query into
account, because a word is written as far as the next character that cannot stand in a word, and the
quote that closes a phrase may be left out only where the query ends.

The lexer works on the rest of a query. `Tiles` follows it there, token by token, and what is said
of the whole query is read off that relation by induction.
-/

set_option autoImplicit false

namespace LedgerSearch.Query

open LedgerSearch.Text

/-! ### How a token is written -/

/-- The capital letters that spell an operator. -/
def Token.capitals : Token → Option (List Char)
  | .and => some ['A', 'N', 'D']
  | .or => some ['O', 'R']
  | .not => some ['N', 'O', 'T']
  | _ => none

/-- The word is written with these letters, each one capital or small. -/
def IsCaseVariant (word capitals : List Char) : Prop :=
  List.Forall₂ (fun c k => c = k ∨ c = k.toLower) word capitals

/-- The characters are a way to write the token in front of what follows them. -/
inductive Spells : Token → List Char → List Char → Prop
  | openParen {following : List Char} : Spells .openParen ['('] following
  | closeParen {following : List Char} : Spells .closeParen [')'] following
  /-- An operator, as far as its word goes. -/
  | operator {t : Token} {word capitals following : List Char} (ht : t.capitals = some capitals)
      (hcase : IsCaseVariant word capitals) (hmax : ∀ c ∈ following.head?, isWordChar c = false) :
      Spells t word following
  /-- Any other word is its own text. -/
  | term {word following : List Char} (hne : word ≠ [])
      (hword : ∀ c ∈ word, isWordChar c = true)
      (hplain : ∀ t capitals, Token.capitals t = some capitals → ¬ IsCaseVariant word capitals)
      (hmax : ∀ c ∈ following.head?, isWordChar c = false) :
      Spells (.term (String.ofList word)) word following
  | phrase {text following : List Char} (htext : '"' ∉ text) :
      Spells (.phrase (String.ofList text)) ('"' :: (text ++ ['"'])) following
  /-- At the end of the query a phrase needs no closing quote. -/
  | openPhrase {text : List Char} (htext : '"' ∉ text) :
      Spells (.phrase (String.ofList text)) ('"' :: text) []

/-- The letter and its small form are what a capital is made from. -/
theorem toUpper_eq_iff {c k : Char} (hk : k.isUpper = true) :
    c.toUpper = k ↔ c = k ∨ c = k.toLower := by
  have hA : 'A'.val.toNat = 65 := rfl
  have hZ : 'Z'.val.toNat = 90 := rfl
  have ha : 'a'.val.toNat = 97 := rfl
  have hz : 'z'.val.toNat = 122 := rfl
  have hdown : ('a'.val - 'A'.val).toNat = 32 := rfl
  -- a capital is 32 code points before its small letter, which wraps around as a difference
  have hup : ('A'.val - 'a'.val).toNat = 2 ^ 32 - 32 := rfl
  unfold Char.isUpper at hk
  unfold Char.toUpper Char.toLower
  simp only [decide_eq_true_eq, ge_iff_le, UInt32.le_iff_toNat_le] at hk
  simp only [UInt32.le_iff_toNat_le, Char.ext_iff, ge_iff_le, ← UInt32.toNat_inj]
  split <;> simp only [UInt32.toNat_add] <;> omega

theorem isCaseVariant_iff {word capitals : List Char} (h : ∀ k ∈ capitals, k.isUpper = true) :
    IsCaseVariant word capitals ↔ word.map Char.toUpper = capitals := by
  induction capitals generalizing word with
  | nil => simp [IsCaseVariant]
  | cons k capitals ih =>
      cases word with
      | nil => simp [IsCaseVariant]
      | cons c word =>
          have hc : c.toUpper = k ↔ c = k ∨ c = k.toLower :=
            toUpper_eq_iff (h k List.mem_cons_self)
          have hrest : IsCaseVariant word capitals ↔ word.map Char.toUpper = capitals :=
            ih fun k' hk' => h k' (List.mem_cons_of_mem k hk')
          rw [List.map_cons, List.cons.injEq, hc, ← hrest]
          exact List.forall₂_cons

theorem Token.isUpper_of_mem_capitals {t : Token} {capitals : List Char}
    (ht : t.capitals = some capitals) : ∀ k ∈ capitals, k.isUpper = true := by
  have hall : capitals.all Char.isUpper = true := by cases t <;> cases ht <;> rfl
  exact List.all_eq_true.mp hall

/-- A word spells an operator where it has its letters, capital or small. -/
theorem Token.keyword?_eq_some_iff {word : List Char} {t : Token} :
    keyword? (String.ofList word) = some t ↔
      ∃ capitals, t.capitals = some capitals ∧ IsCaseVariant word capitals := by
  have hcase : (∃ capitals, t.capitals = some capitals ∧ IsCaseVariant word capitals) ↔
      t.capitals = some (word.map Char.toUpper) := by
    constructor
    · rintro ⟨capitals, ht, hword⟩
      rw [(isCaseVariant_iff (isUpper_of_mem_capitals ht)).mp hword, ht]
    · intro ht
      exact ⟨_, ht, (isCaseVariant_iff (isUpper_of_mem_capitals ht)).mpr rfl⟩
  rw [hcase, keyword?, String.toList_ofList]
  split_ifs with hand hor hnot
  · rw [hand]
    cases t <;> simp [capitals]
  · rw [hor]
    cases t <;> simp [capitals]
  · rw [hnot]
    cases t <;> simp [capitals]
  · -- the letters are those of no operator
    cases t <;> simp [capitals, eq_comm, hand, hor, hnot]

/-- A word of word characters, as far as it goes, is a way to write its token. -/
theorem spells_ofWord {word following : List Char} (hne : word ≠ [])
    (hword : ∀ c ∈ word, isWordChar c = true)
    (hmax : ∀ c ∈ following.head?, isWordChar c = false) :
    Spells (.ofWord (String.ofList word)) word following := by
  cases hkey : Token.keyword? (String.ofList word) with
  | some t =>
      obtain ⟨capitals, ht, hcase⟩ := Token.keyword?_eq_some_iff.mp hkey
      rw [Token.ofWord, hkey]
      exact .operator ht hcase hmax
  | none =>
      rw [Token.ofWord, hkey]
      refine .term hne hword (fun t capitals ht hcase => ?_) hmax
      rw [Token.keyword?_eq_some_iff.mpr ⟨capitals, ht, hcase⟩] at hkey
      cases hkey

/-- Every token is written with at least one character. -/
theorem Spells.ne_nil {t : Token} {spelling following : List Char}
    (h : Spells t spelling following) : spelling ≠ [] := by
  cases h with
  | operator ht hcase _ =>
      rintro rfl
      cases hcase
      cases t <;> cases ht
  | term hne _ _ _ => exact hne
  | openParen | closeParen | phrase | openPhrase => exact List.cons_ne_nil _ _

/-- The end of the query is not written. -/
theorem Spells.ne_endOfQuery {t : Token} {spelling following : List Char}
    (h : Spells t spelling following) : t ≠ .endOfQuery := by
  cases h with
  | operator ht _ _ =>
      rintro rfl
      cases ht
  | openParen | closeParen | term | phrase | openPhrase => exact Token.noConfusion

/-! ### The rest of a query and its tokens -/

/-- The tokens cover the rest of a query that begins at the offset. -/
inductive Tiles : Nat → List Char → List Lexeme → Prop
  | done {offset : Nat} : Tiles offset [] [⟨.endOfQuery, offset⟩]
  | blank {offset : Nat} {c : Char} {cs : List Char} {lexemes : List Lexeme}
      (hc : isBlank c = true) (h : Tiles (offset + c.utf8Size) cs lexemes) :
      Tiles offset (c :: cs) lexemes
  | token {offset : Nat} {t : Token} {spelling cs : List Char} {lexemes : List Lexeme}
      (hs : Spells t spelling cs) (h : Tiles (offset + byteLength spelling) cs lexemes) :
      Tiles offset (spelling ++ cs) (⟨t, offset⟩ :: lexemes)

/-- What the lexer returns covers the text. -/
theorem tiles_lexFrom (offset : Nat) (cs : List Char) : Tiles offset cs (lexFrom offset cs) := by
  induction cs using text_induction generalizing offset with
  | nil => rw [lexFrom_nil]; exact .done
  | blank c cs hc ih => rw [lexFrom_blank hc]; exact .blank hc (ih _)
  | openParen cs ih => rw [lexFrom_openParen]; exact .token .openParen (ih _)
  | closeParen cs ih => rw [lexFrom_closeParen]; exact .token .closeParen (ih _)
  | phrase text rest htext ih =>
      have hchars : '"' :: (text ++ '"' :: rest) = '"' :: (text ++ ['"']) ++ rest := by simp
      have hlen : offset + 1 + byteLength text + 1
          = offset + byteLength ('"' :: (text ++ ['"'])) := by
        simp only [byteLength, byteLength_append, show '"'.utf8Size = 1 from rfl]
        omega
      rw [lexFrom_phrase htext, hchars, hlen]
      exact .token (.phrase htext) (ih _)
  | openPhrase text htext =>
      have hlen : offset + 1 + byteLength text = offset + byteLength ('"' :: text) :=
        Nat.add_assoc offset 1 (byteLength text)
      rw [lexFrom_openPhrase htext, hlen, ← List.append_nil ('"' :: text)]
      exact .token (.openPhrase htext) (by rw [List.append_nil]; exact .done)
  | word word rest hne hword hrest ih =>
      rw [lexFrom_word hne hword hrest]
      exact .token (spells_ofWord hne hword hrest) (ih _)

section
variable {offset : Nat} {cs : List Char} {lexemes : List Lexeme}

/-- The row begins where the blanks end. -/
theorem Tiles.head (h : Tiles offset cs lexemes) :
    ∃ x rest blanks after, lexemes = x :: rest ∧ cs = blanks ++ after ∧
      (∀ c ∈ blanks, isBlank c = true) ∧ x.offset = offset + byteLength blanks := by
  induction h with
  | done => exact ⟨_, _, [], [], rfl, rfl, by simp, rfl⟩
  | @blank offset c cs lexemes hc _ ih =>
      obtain ⟨x, rest, blanks, after, rfl, rfl, hblanks, hx⟩ := ih
      refine ⟨x, rest, c :: blanks, after, rfl, rfl, ?_, ?_⟩
      · simpa [hc] using hblanks
      · rw [hx, byteLength, Nat.add_assoc]
  | token hs _ _ => exact ⟨_, _, [], _, rfl, rfl, by simp, rfl⟩

/-- No token begins before the text does. -/
theorem Tiles.offset_le (h : Tiles offset cs lexemes) : ∀ x ∈ lexemes, offset ≤ x.offset := by
  induction h with
  | done => simp
  | blank hc _ ih => exact fun x hx => Nat.le_of_add_right_le (ih x hx)
  | token hs _ ih =>
      intro x hx
      rcases List.mem_cons.mp hx with rfl | hx
      · exact Nat.le_refl _
      · exact Nat.le_of_add_right_le (ih x hx)

theorem Tiles.increasing (h : Tiles offset cs lexemes) :
    lexemes.Pairwise fun x y => x.offset < y.offset := by
  induction h with
  | done => exact List.pairwise_singleton _ _
  | blank _ _ ih => exact ih
  | token hs h ih =>
      refine List.pairwise_cons.mpr ⟨fun y hy => ?_, ih⟩
      exact Nat.lt_of_lt_of_le (Nat.lt_add_of_pos_right (byteLength_pos hs.ne_nil))
        (h.offset_le y hy)

theorem Tiles.ends (h : Tiles offset cs lexemes) :
    ∃ front, lexemes = front ++ [⟨.endOfQuery, offset + byteLength cs⟩] ∧
      ∀ x ∈ front, x.token ≠ .endOfQuery := by
  induction h with
  | done => exact ⟨[], rfl, by simp⟩
  | blank _ _ ih =>
      obtain ⟨front, rfl, hfront⟩ := ih
      exact ⟨front, by rw [byteLength, Nat.add_assoc], hfront⟩
  | token hs _ ih =>
      obtain ⟨front, rfl, hfront⟩ := ih
      refine ⟨_ :: front, by rw [byteLength_append, Nat.add_assoc]; rfl, fun x hx => ?_⟩
      rcases List.mem_cons.mp hx with rfl | hx
      · exact hs.ne_endOfQuery
      · exact hfront x hx

/-- Between a token and the next one stands what the token is written as, and blanks. The text may
be the rest of a longer one, as long as its offset counts what stands before it. -/
theorem Tiles.between (h : Tiles offset cs lexemes) {before : List Char}
    (hbefore : byteLength before = offset) {x y : Lexeme} (hxy : [x, y] <:+: lexemes) :
    ∃ spelling blanks after,
      StandsBetween (before ++ cs) x.offset y.offset (spelling ++ blanks) after ∧
        Spells x.token spelling (blanks ++ after) ∧ ∀ c ∈ blanks, isBlank c = true := by
  induction h generalizing before with
  | done =>
      have := hxy.length_le
      simp at this
  | @blank offset c cs lexemes hc _ ih =>
      have hchars : before ++ c :: cs = (before ++ [c]) ++ cs := by simp
      rw [hchars]
      exact ih (by rw [byteLength_append, hbefore]; rfl) hxy
  | @token offset t spelling cs lexemes hs h ih =>
      rcases List.infix_cons_iff.mp hxy with hhead | htail
      · -- the first token: the next one begins behind the blanks that follow its spelling
        obtain ⟨z, rest, blanks, after, rfl, rfl, hblanks, hz⟩ := h.head
        obtain ⟨rfl, rfl⟩ : x = ⟨t, offset⟩ ∧ y = z := by
          simpa [List.cons_prefix_cons] using hhead
        refine ⟨spelling, blanks, after, ⟨before, by simp, hbefore, ?_⟩, hs, hblanks⟩
        rw [hz, byteLength_append, byteLength_append, hbefore, Nat.add_assoc]
      · rw [← List.append_assoc]
        exact ih (by rw [byteLength_append, hbefore]) htail

/-- At the offset of every token but the last stands what this token is written as. At the offset
of the last one, the end of the query, the text has ended. -/
theorem Tiles.standsAt (h : Tiles offset cs lexemes) :
    ∀ x ∈ lexemes, ∃ front after, cs = front ++ after ∧ x.offset = offset + byteLength front ∧
      (x.token = .endOfQuery ∧ after = [] ∨
        ∃ spelling rest, after = spelling ++ rest ∧ Spells x.token spelling rest) := by
  induction h with
  | done =>
      intro x hx
      obtain rfl := List.mem_singleton.mp hx
      exact ⟨[], [], rfl, rfl, .inl ⟨rfl, rfl⟩⟩
  | @blank offset c cs lexemes hc _ ih =>
      intro x hx
      obtain ⟨front, after, rfl, hfront, hafter⟩ := ih x hx
      exact ⟨c :: front, after, rfl, by rw [hfront, byteLength, Nat.add_assoc], hafter⟩
  | @token offset t spelling cs lexemes hs _ ih =>
      intro x hx
      rcases List.mem_cons.mp hx with rfl | hx
      · exact ⟨[], _, rfl, rfl, .inr ⟨spelling, cs, rfl, hs⟩⟩
      · obtain ⟨front, after, rfl, hfront, hafter⟩ := ih x hx
        exact ⟨spelling ++ front, after, by rw [List.append_assoc],
          by rw [hfront, byteLength_append, Nat.add_assoc], hafter⟩

/-- Every token begins where a character begins, or where the text ends. -/
theorem Tiles.onBoundary (h : Tiles offset cs lexemes) :
    ∀ x ∈ lexemes, ∃ front after, cs = front ++ after ∧ x.offset = offset + byteLength front := by
  intro x hx
  obtain ⟨front, after, hcs, hfront, -⟩ := h.standsAt x hx
  exact ⟨front, after, hcs, hfront⟩

end

/-! ### The whole query -/

/-- The row of tokens accounts for the whole query. -/
structure IsLexing (query : String) (lexemes : List Lexeme) : Prop where
  /-- The end of the query is the last token and no other, behind the last byte. -/
  ends : ∃ front, lexemes = front ++ [⟨.endOfQuery, query.utf8ByteSize⟩] ∧
    ∀ x ∈ front, x.token ≠ .endOfQuery
  increasing : lexemes.Pairwise fun x y => x.offset < y.offset
  /-- Every token begins where a character begins, the last one where the query ends. -/
  onBoundary : ∀ x ∈ lexemes, ∃ front after, StandsBetween query.toList 0 x.offset front after
  /-- Only blanks stand in front of the first token. -/
  leading : ∀ x ∈ lexemes.head?, ∃ blanks after,
    StandsBetween query.toList 0 x.offset blanks after ∧ ∀ c ∈ blanks, isBlank c = true
  /-- From a token to the next one stands what the token is written as, with blanks behind it. -/
  between : ∀ x y, [x, y] <:+: lexemes → ∃ spelling blanks after,
    StandsBetween query.toList x.offset y.offset (spelling ++ blanks) after ∧
      Spells x.token spelling (blanks ++ after) ∧ ∀ c ∈ blanks, isBlank c = true

/-- **The lexer loses nothing and invents nothing.** The tokens of a query end with the end of the
query, their offsets increase and fall between characters, and cut at these offsets the query falls
into blanks and the spellings of its tokens. -/
theorem lex_isLexing (query : String) : IsLexing query (lex query) := by
  have h : Tiles 0 query.toList (lex query) := tiles_lexFrom 0 query.toList
  refine ⟨?_, h.increasing, fun x hx => ?_, fun x hx => ?_, fun x y hxy => ?_⟩
  · have hends := h.ends
    rwa [Nat.zero_add, byteLength_toList] at hends
  · obtain ⟨front, after, hcs, hfront⟩ := h.onBoundary x hx
    exact ⟨front, after, [], hcs, rfl, by rw [hfront, Nat.zero_add]; rfl⟩
  · obtain ⟨y, rest, blanks, after, hrow, hcs, hblanks, hy⟩ := h.head
    obtain rfl : y = x := by simpa [hrow] using hx
    exact ⟨blanks, after, ⟨[], hcs, rfl, by rw [hy, Nat.zero_add]; rfl⟩, hblanks⟩
  · exact h.between (show byteLength [] = 0 from rfl) hxy

/-- The accent takes two bytes, and the phrase is not closed. -/
example : lex "é (\"b" = [⟨.term "é", 0⟩, ⟨.openParen, 3⟩, ⟨.phrase "b", 4⟩, ⟨.endOfQuery, 6⟩] := by
  decide +kernel

end LedgerSearch.Query
