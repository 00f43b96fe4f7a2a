import LedgerSearch.Proofs.Query.Alike
import LedgerSearch.Proofs.Query.Position
import LedgerSearch.Proofs.Text.LetterCase

/-!
# `LedgerSearch.Proofs.Query.LetterCase`: the parser does not tell the case of ASCII letters

Queries written in the same letters (`SameLetters`) have the same tokens at the same offsets, but
for the case of the letters in their words and phrases. The lexer goes through both in step, because
it looks at characters one by one and treats a capital like its small letter: blanks, parentheses
and quotes have no case, and a keyword may be spelled in any. So lexing a query with small letters
gives the tokens of the query with small letters (`lexFrom_map_toLower`).

`parse_sameLetters` draws the conclusion. The parser returns trees that differ only in the case of
letters in their terms, or errors at the same token and at the same position.
-/

set_option autoImplicit false

namespace LedgerSearch.Query

open LedgerSearch.Text

/-! ### Words and tokens -/

theorem isWordChar_toLower (c : Char) : isWordChar c.toLower = isWordChar c := by
  rw [isWordChar, isWordChar, isBlank_toLower, toLower_beq (by decide), toLower_beq (by decide),
    toLower_beq (by decide)]

theorem quote_mem_map_toLower {text : List Char} : '"' ∈ text.map Char.toLower ↔ '"' ∈ text := by
  have hquote : ∀ c : Char, c.toLower = '"' ↔ c = '"' := fun c => toLower_eq_iff (by decide)
  simp only [List.mem_map, hquote, exists_eq_right]

/-- The token with small letters in its text. -/
def Token.small : Token → Token
  | .term text => .term (smallLetters text)
  | .phrase text => .phrase (smallLetters text)
  | t => t

/-- The token with small letters in its text, at its place. -/
def Lexeme.small (lexeme : Lexeme) : Lexeme :=
  ⟨lexeme.token.small, lexeme.offset⟩

/-- The case of its letters does not change which operator a word spells. -/
theorem Token.keyword?_smallLetters (word : String) :
    Token.keyword? (smallLetters word) = Token.keyword? word := by
  have hcapitals : (smallLetters word).toList.map Char.toUpper = word.toList.map Char.toUpper := by
    rw [smallLetters, String.toList_ofList, List.map_map]
    exact List.map_congr_left fun c _ => toUpper_toLower c
  rw [Token.keyword?, Token.keyword?, hcapitals]

theorem Token.ofWord_smallLetters (word : String) :
    Token.ofWord (smallLetters word) = (Token.ofWord word).small := by
  unfold Token.ofWord
  rw [Token.keyword?_smallLetters]
  unfold Token.keyword?
  dsimp only
  split_ifs <;> rfl

theorem Token.small_eq_end_iff {t : Token} : t.small = .endOfQuery ↔ t = .endOfQuery := by
  cases t <;> simp [Token.small]

/-- Tokens that agree once their letters are small are alike. -/
theorem Token.alike_of_small_eq {t t' : Token} (h : t.small = t'.small) :
    t.Alike SameLetters t' := by
  cases t <;> cases t' <;> simp only [Token.small, reduceCtorEq, Token.term.injEq,
    Token.phrase.injEq] at h
  case term.term => exact .term (sameLetters_iff.mpr h)
  case phrase.phrase => exact .phrase (sameLetters_iff.mpr h)
  case and.and => exact .and
  case or.or => exact .or
  case not.not => exact .not
  case openParen.openParen => exact .openParen
  case closeParen.closeParen => exact .closeParen
  case endOfQuery.endOfQuery => exact .endOfQuery

/-! ### The lexer -/

/-- **To make the letters of a query small is to make those of its tokens small.** The tokens stay
where they are. -/
theorem lexFrom_map_toLower (offset : Nat) (cs : List Char) :
    lexFrom offset (cs.map Char.toLower) = (lexFrom offset cs).map Lexeme.small := by
  induction cs using text_induction generalizing offset with
  | nil =>
      rw [List.map_nil, lexFrom_nil]
      rfl
  | blank c cs hc ih =>
      have hc' : isBlank c.toLower = true := by rwa [isBlank_toLower]
      rw [List.map_cons, lexFrom_blank hc', lexFrom_blank hc, utf8Size_toLower, ih]
  | openParen cs ih =>
      rw [List.map_cons, show '('.toLower = '(' from rfl, lexFrom_openParen, lexFrom_openParen,
        List.map_cons, ih]
      rfl
  | closeParen cs ih =>
      rw [List.map_cons, show ')'.toLower = ')' from rfl, lexFrom_closeParen, lexFrom_closeParen,
        List.map_cons, ih]
      rfl
  | phrase text rest htext ih =>
      have htext' := mt quote_mem_map_toLower.mp htext
      rw [List.map_cons, List.map_append, List.map_cons, show '"'.toLower = '"' from rfl,
        lexFrom_phrase htext', lexFrom_phrase htext, byteLength_map_toLower, List.map_cons, ih]
      simp only [Lexeme.small, Token.small, smallLetters, String.toList_ofList]
  | openPhrase text htext =>
      have htext' := mt quote_mem_map_toLower.mp htext
      rw [List.map_cons, show '"'.toLower = '"' from rfl, lexFrom_openPhrase htext',
        lexFrom_openPhrase htext, byteLength_map_toLower]
      simp only [List.map_cons, List.map_nil, Lexeme.small, Token.small, smallLetters,
        String.toList_ofList]
  | word word rest hne hword hrest ih =>
      have hne' : word.map Char.toLower ≠ [] := mt List.map_eq_nil_iff.mp hne
      have hword' : ∀ c ∈ word.map Char.toLower, isWordChar c = true := by
        intro c hc
        obtain ⟨d, hd, rfl⟩ := List.mem_map.mp hc
        rw [isWordChar_toLower, hword d hd]
      have hrest' : ∀ c ∈ (rest.map Char.toLower).head?, isWordChar c = false := by
        intro c hc
        rw [List.head?_map] at hc
        obtain ⟨d, hd, rfl⟩ := Option.map_eq_some_iff.mp hc
        rw [isWordChar_toLower, hrest d hd]
      have hsmall : String.ofList (word.map Char.toLower) = smallLetters (String.ofList word) := by
        rw [smallLetters, String.toList_ofList]
      rw [List.map_append, lexFrom_word hne' hword' hrest', lexFrom_word hne hword hrest, hsmall,
        Token.ofWord_smallLetters, byteLength_map_toLower, List.map_cons, ih]
      rfl

variable {query query' : String}

theorem lex_smallLetters (query : String) :
    lex (smallLetters query) = (lex query).map Lexeme.small := by
  rw [lex, lex, smallLetters, String.toList_ofList, lexFrom_map_toLower]

/-- Queries in the same letters have the same tokens, once the letters of these are small too. -/
theorem map_small_lex (h : SameLetters query query') :
    (lex query).map Lexeme.small = (lex query').map Lexeme.small := by
  rw [← lex_smallLetters, ← lex_smallLetters, sameLetters_iff.mp h]

/-- The end of the query is one token in either row, so making letters small does not move it. -/
theorem takeWhile_map_small (ts : List Token) :
    (ts.map Token.small).takeWhile (· ≠ .endOfQuery)
      = (ts.takeWhile (· ≠ .endOfQuery)).map Token.small := by
  rw [List.takeWhile_map]
  congr 2
  funext t
  exact decide_eq_decide.mpr (not_congr Token.small_eq_end_iff)

/-- The tokens of such queries are alike up to their ends. -/
theorem ahead_lex_alike (h : SameLetters query query') :
    List.Forall₂ (Token.Alike SameLetters) (Cursor.start (lex query)).ahead
      (Cursor.start (lex query')).ahead := by
  have htokens : ((lex query).map (·.token)).map Token.small
      = ((lex query').map (·.token)).map Token.small := by
    have hmap := congrArg (List.map (·.token)) (map_small_lex h)
    rwa [List.map_map, List.map_map] at hmap ⊢
  have hahead := congrArg (List.takeWhile (· ≠ .endOfQuery)) htokens
  rw [takeWhile_map_small, takeWhile_map_small, ← List.forall₂_eq_eq_eq,
    List.forall₂_map_left_iff, List.forall₂_map_right_iff] at hahead
  exact hahead.imp fun _ _ => Token.alike_of_small_eq

/-- Tokens with the same number begin at the same offset. -/
theorem offsetAt_lex (h : SameLetters query query') (index : Nat) :
    offsetAt query (lex query) index = offsetAt query' (lex query') index := by
  have hsmall : ∀ lexemes : List Lexeme,
      offsetAt query (lexemes.map Lexeme.small) index = offsetAt query lexemes index := by
    intro lexemes
    unfold offsetAt
    rw [List.getElem?_map]
    cases lexemes[index]? <;> rfl
  rw [← hsmall, map_small_lex h, hsmall]
  unfold offsetAt
  rw [h.utf8ByteSize_eq]

/-! ### The parser -/

/-- **The parser does not tell the case of ASCII letters.** On two queries in the same letters it
returns trees of one shape with terms in the same letters, or it fails on both, at the same token
and at the same position. -/
theorem parse_sameLetters (h : SameLetters query query') (options : ParseOptions) :
    (∃ e e', parse query options = .ok e ∧ parse query' options = .ok e' ∧
      e.Alike SameLetters e') ∨
    ∃ err err', parse query options = .error err ∧ parse query' options = .error err' ∧
      err.tokenIndex = err'.tokenIndex ∧ err.position = err'.position := by
  have hagrees : Agrees SameLetters (Expr.Alike SameLetters) (parse query options)
      (parse query' options) := agrees_parseTokens (ahead_lex_alike h)
  generalize hparse : parse query options = r at hagrees ⊢
  generalize hparse' : parse query' options = r' at hagrees ⊢
  cases hagrees with
  | ok he => exact .inl ⟨_, _, rfl, rfl, he⟩
  | error hkind hindex =>
      refine .inr ⟨_, _, rfl, rfl, hindex, ?_⟩
      have hposition := (parseTokens_error_position hparse).position_eq
      have hposition' := (parseTokens_error_position hparse').position_eq
      rw [hposition, hposition', hindex, offsetAt_lex h]

end LedgerSearch.Query
