import LedgerSearch.Proofs.Text.Bytes
import LedgerSearch.Query.Lexeme
import Mathlib.Algebra.Group.Even
import Mathlib.Algebra.Group.Nat.Even
import Mathlib.Data.List.TakeWhile

/-!
# `LedgerSearch.Proofs.Query.Lexer`: what the lexer makes of the beginning of a text

One equation for each way in which a text can begin: a blank, a parenthesis, a phrase that is closed
or not, a word. Together they cover every text, so later modules use them in place of the lexer's
definition. Two facts follow by induction along the text. Where a text begins moves its tokens and
changes nothing else about them (`lexFrom_add`). And a text that closes all its phrases keeps its
tokens in front of more text, which then has tokens of its own (`lexFrom_append`).

`tokensOf` is the row of tokens without the offsets.
-/

set_option autoImplicit false

namespace LedgerSearch.Query

open LedgerSearch.Text

/-- The tokens of a text. -/
def tokensOf (cs : List Char) : List Token :=
  (lexFrom 0 cs).map (·.token)

/-! ### The ways in which a text begins -/

section
variable {offset : Nat} {c : Char} {cs rest : List Char}

theorem lexFrom_nil : lexFrom offset [] = [⟨.endOfQuery, offset⟩] := by
  rw [lexFrom]

theorem lexFrom_blank (hc : isBlank c = true) :
    lexFrom offset (c :: cs) = lexFrom (offset + c.utf8Size) cs := by
  rw [lexFrom, if_pos hc]

theorem lexFrom_openParen :
    lexFrom offset ('(' :: cs) = ⟨.openParen, offset⟩ :: lexFrom (offset + 1) cs := by
  rw [lexFrom, if_neg (by decide), if_pos rfl]

theorem lexFrom_closeParen :
    lexFrom offset (')' :: cs) = ⟨.closeParen, offset⟩ :: lexFrom (offset + 1) cs := by
  rw [lexFrom, if_neg (by decide), if_neg (by decide), if_pos rfl]

/-- The front of a text whose characters have a property, up to the first that has not. -/
theorem takeWhile_dropWhile_eq {p : Char → Bool} {front : List Char} (rest : List Char)
    (hfront : ∀ c ∈ front, p c = true) (hrest : ∀ c ∈ rest.head?, p c = false) :
    (front ++ rest).takeWhile p = front ∧ (front ++ rest).dropWhile p = rest := by
  rw [List.takeWhile_append_of_pos hfront, List.dropWhile_append_of_pos hfront]
  cases rest with
  | nil => exact ⟨List.append_nil front, rfl⟩
  | cons c rest =>
      have hc : ¬ p c = true := by rw [hrest c rfl]; decide
      exact ⟨by rw [List.takeWhile_cons_of_neg hc, List.append_nil], List.dropWhile_cons_of_neg hc⟩

theorem ne_quote_of_notMem {text : List Char} (htext : '"' ∉ text) :
    ∀ c ∈ text, (c != '"') = true := by
  intro c hc
  exact bne_iff_ne.mpr fun heq => htext (heq ▸ hc)

/-- A phrase with its closing quote. -/
theorem lexFrom_phrase {text : List Char} (htext : '"' ∉ text) :
    lexFrom offset ('"' :: (text ++ '"' :: rest))
      = ⟨.phrase (String.ofList text), offset⟩
        :: lexFrom (offset + 1 + byteLength text + 1) rest := by
  obtain ⟨htake, hdrop⟩ := takeWhile_dropWhile_eq ('"' :: rest) (ne_quote_of_notMem htext)
    (by rintro c ⟨⟩; rfl)
  rw [lexFrom, if_neg (by decide), if_neg (by decide), if_neg (by decide), if_pos rfl]
  dsimp only
  split
  · rename_i h
    cases hdrop.symm.trans h
  · rename_i h
    cases hdrop.symm.trans h
    rw [htake]

/-- A phrase that the end of the query closes. -/
theorem lexFrom_openPhrase {text : List Char} (htext : '"' ∉ text) :
    lexFrom offset ('"' :: text)
      = [⟨.phrase (String.ofList text), offset⟩,
          ⟨.endOfQuery, offset + 1 + byteLength text⟩] := by
  obtain ⟨htake, hdrop⟩ := takeWhile_dropWhile_eq [] (ne_quote_of_notMem htext)
    (by rintro c ⟨⟩)
  rw [List.append_nil] at htake hdrop
  rw [lexFrom, if_neg (by decide), if_neg (by decide), if_neg (by decide), if_pos rfl]
  dsimp only
  split
  · rw [htake]
  · rename_i h
    cases hdrop.symm.trans h

theorem isWordChar_iff :
    isWordChar c = true ↔ isBlank c = false ∧ c ≠ '(' ∧ c ≠ ')' ∧ c ≠ '"' := by
  simp [isWordChar, and_assoc]

/-- A word ends where a character cannot stand in one. -/
theorem lexFrom_word {word : List Char} (hne : word ≠ []) (hword : ∀ c ∈ word, isWordChar c = true)
    (hrest : ∀ c ∈ rest.head?, isWordChar c = false) :
    lexFrom offset (word ++ rest)
      = ⟨.ofWord (String.ofList word), offset⟩ :: lexFrom (offset + byteLength word) rest := by
  obtain ⟨c, cs, rfl⟩ := List.exists_cons_of_ne_nil hne
  obtain ⟨hblank, hopen, hclose, hquote⟩ := isWordChar_iff.mp (hword c List.mem_cons_self)
  obtain ⟨htake, hdrop⟩ := takeWhile_dropWhile_eq rest
    (fun d hd => hword d (List.mem_cons_of_mem c hd)) hrest
  rw [List.cons_append, lexFrom, if_neg (by rw [hblank]; decide), if_neg hopen, if_neg hclose,
    if_neg hquote]
  dsimp only
  rw [htake, hdrop]

end

/-- **Every text begins in one of these ways.** Induction over a text along its tokens: what holds
of the rest behind the first token or blank is shown to hold of the whole. -/
theorem text_induction {motive : List Char → Prop} (nil : motive [])
    (blank : ∀ c cs, isBlank c = true → motive cs → motive (c :: cs))
    (openParen : ∀ cs, motive cs → motive ('(' :: cs))
    (closeParen : ∀ cs, motive cs → motive (')' :: cs))
    (phrase : ∀ text rest, '"' ∉ text → motive rest → motive ('"' :: (text ++ '"' :: rest)))
    (openPhrase : ∀ text, '"' ∉ text → motive ('"' :: text))
    (word : ∀ word rest, word ≠ [] → (∀ c ∈ word, isWordChar c = true) →
      (∀ c ∈ rest.head?, isWordChar c = false) → motive rest → motive (word ++ rest))
    (cs : List Char) : motive cs := by
  match cs with
  | [] => exact nil
  | c :: cs =>
      -- every case goes on with a part of what stands behind the first character
      have ih := fun rest (_ : rest.length ≤ cs.length) =>
        text_induction nil blank openParen closeParen phrase openPhrase word rest
      by_cases hblank : isBlank c = true
      · exact blank c cs hblank (ih cs (Nat.le_refl _))
      by_cases hopen : c = '('
      · subst hopen
        exact openParen cs (ih cs (Nat.le_refl _))
      by_cases hclose : c = ')'
      · subst hclose
        exact closeParen cs (ih cs (Nat.le_refl _))
      by_cases hquote : c = '"'
      · subst hquote
        have htext : '"' ∉ cs.takeWhile (· != '"') := fun h => by
          simpa using List.mem_takeWhile_imp h
        have hsplit := List.takeWhile_append_dropWhile (p := (· != '"')) (l := cs)
        have hhead := List.head?_dropWhile_not (· != '"') cs
        cases hdrop : cs.dropWhile (· != '"') with
        | nil =>
            rw [hdrop, List.append_nil] at hsplit
            exact openPhrase cs (hsplit ▸ htext)
        | cons d rest =>
            -- the phrase stops at a character that does not belong to it, the closing quote
            rw [hdrop] at hsplit hhead
            obtain rfl : d = '"' := by simpa using hhead
            have hlen := congrArg List.length hsplit
            rw [List.length_append, List.length_cons] at hlen
            rw [← hsplit]
            exact phrase _ rest htext (ih rest (by omega))
      · have hc : isWordChar c = true :=
          isWordChar_iff.mpr ⟨Bool.not_eq_true _ ▸ hblank, hopen, hclose, hquote⟩
        have hsplit := List.takeWhile_append_dropWhile (p := isWordChar) (l := cs)
        have hhead := List.head?_dropWhile_not isWordChar cs
        have hrest : ∀ d ∈ (cs.dropWhile isWordChar).head?, isWordChar d = false := by
          intro d hd
          rw [Option.mem_def.mp hd] at hhead
          simpa using hhead
        have hword : ∀ d ∈ c :: cs.takeWhile isWordChar, isWordChar d = true := by
          intro d hd
          rcases List.mem_cons.mp hd with rfl | hd
          · exact hc
          · exact List.mem_takeWhile_imp hd
        rw [← hsplit]
        exact word (c :: cs.takeWhile isWordChar) _ (List.cons_ne_nil _ _) hword hrest
          (ih _ (List.dropWhile_sublist isWordChar).length_le)
termination_by cs.length

/-! ### Where a text begins -/

/-- The token, so many bytes further on. -/
def Lexeme.shift (start : Nat) (lexeme : Lexeme) : Lexeme :=
  ⟨lexeme.token, start + lexeme.offset⟩

/-- A text that begins further on has the same tokens, each as much further on. -/
theorem lexFrom_add (start offset : Nat) (cs : List Char) :
    lexFrom (start + offset) cs = (lexFrom offset cs).map (Lexeme.shift start) := by
  induction cs using text_induction generalizing offset with
  | nil =>
      rw [lexFrom_nil, lexFrom_nil]
      rfl
  | blank c cs hc ih => rw [lexFrom_blank hc, lexFrom_blank hc, Nat.add_assoc, ih]
  | openParen cs ih =>
      rw [lexFrom_openParen, lexFrom_openParen, Nat.add_assoc, ih]
      rfl
  | closeParen cs ih =>
      rw [lexFrom_closeParen, lexFrom_closeParen, Nat.add_assoc, ih]
      rfl
  | phrase text rest htext ih =>
      simp only [lexFrom_phrase htext, Nat.add_assoc, ih]
      rfl
  | openPhrase text htext =>
      simp only [lexFrom_openPhrase htext, Nat.add_assoc]
      rfl
  | word word rest hne hword hrest ih =>
      rw [lexFrom_word hne hword hrest, lexFrom_word hne hword hrest, Nat.add_assoc, ih]
      rfl

/-! ### A text in front of more text -/

/-- A text that closes all its phrases has its own tokens in front of any text at which its last
word ends, and the tokens of that text follow. -/
theorem exists_lexFrom_append (offset : Nat) {cs : List Char} (hquotes : Even (cs.count '"')) :
    ∃ front, ∀ rest : List Char, (∀ c ∈ rest.head?, isWordChar c = false) →
      lexFrom offset (cs ++ rest) = front ++ lexFrom (offset + byteLength cs) rest := by
  induction cs using text_induction generalizing offset with
  | nil => exact ⟨[], fun rest _ => rfl⟩
  | blank c cs hc ih =>
      have hne : c ≠ '"' := by
        rintro rfl
        exact absurd hc (by decide)
      rw [List.count_cons_of_ne hne] at hquotes
      obtain ⟨front, hfront⟩ := ih (offset + c.utf8Size) hquotes
      refine ⟨front, fun rest hrest => ?_⟩
      rw [List.cons_append, lexFrom_blank hc, hfront rest hrest, byteLength, Nat.add_assoc]
  | openParen cs ih =>
      rw [List.count_cons_of_ne (by decide)] at hquotes
      obtain ⟨front, hfront⟩ := ih (offset + 1) hquotes
      refine ⟨⟨.openParen, offset⟩ :: front, fun rest hrest => ?_⟩
      rw [List.cons_append, lexFrom_openParen, hfront rest hrest, Nat.add_assoc]
      rfl
  | closeParen cs ih =>
      rw [List.count_cons_of_ne (by decide)] at hquotes
      obtain ⟨front, hfront⟩ := ih (offset + 1) hquotes
      refine ⟨⟨.closeParen, offset⟩ :: front, fun rest hrest => ?_⟩
      rw [List.cons_append, lexFrom_closeParen, hfront rest hrest, Nat.add_assoc]
      rfl
  | phrase text cs htext ih =>
      -- the two quotes of the phrase do not change the parity
      rw [List.count_cons_self, List.count_append, List.count_eq_zero.mpr htext, Nat.zero_add,
        List.count_cons_self, Nat.even_add_one, Nat.even_add_one, not_not] at hquotes
      obtain ⟨front, hfront⟩ := ih (offset + 1 + byteLength text + 1) hquotes
      refine ⟨⟨.phrase (String.ofList text), offset⟩ :: front, fun rest hrest => ?_⟩
      have hchars : '"' :: (text ++ '"' :: cs) ++ rest = '"' :: (text ++ '"' :: (cs ++ rest)) := by
        simp
      have hlength : offset + byteLength ('"' :: (text ++ '"' :: cs))
          = offset + 1 + byteLength text + 1 + byteLength cs := by
        simp only [byteLength, byteLength_append, show '"'.utf8Size = 1 from rfl]
        omega
      rw [hchars, lexFrom_phrase htext, hfront rest hrest, hlength, List.cons_append]
  | openPhrase text htext =>
      -- one quote only, the one that is never closed
      rw [List.count_cons_self, List.count_eq_zero.mpr htext] at hquotes
      exact absurd hquotes (by decide)
  | word word cs hne hword hcs ih =>
      have hquote : '"' ∉ word := fun hmem => (isWordChar_iff.mp (hword _ hmem)).2.2.2 rfl
      rw [List.count_append, List.count_eq_zero.mpr hquote, Nat.zero_add] at hquotes
      obtain ⟨front, hfront⟩ := ih (offset + byteLength word) hquotes
      refine ⟨⟨.ofWord (String.ofList word), offset⟩ :: front, fun rest hrest => ?_⟩
      -- the word ends where it did, be it at what followed it or at the new text
      have hhead : ∀ c ∈ (cs ++ rest).head?, isWordChar c = false := by
        cases cs with
        | nil => exact hrest
        | cons c cs => exact hcs
      rw [List.append_assoc, lexFrom_word hne hword hhead, hfront rest hrest, byteLength_append,
        Nat.add_assoc, List.cons_append]

/-- **A text that closes all its phrases keeps its tokens in front of more text**, all but the end
of the query. Its last word must not go on there. -/
theorem lexFrom_append {offset : Nat} {cs rest : List Char} (hquotes : Even (cs.count '"'))
    (hrest : ∀ c ∈ rest.head?, isWordChar c = false) :
    lexFrom offset (cs ++ rest)
      = (lexFrom offset cs).dropLast ++ lexFrom (offset + byteLength cs) rest := by
  obtain ⟨front, hfront⟩ := exists_lexFrom_append offset hquotes
  have halone := hfront [] (by simp)
  rw [List.append_nil, lexFrom_nil] at halone
  rw [hfront rest hrest, halone, List.dropLast_concat]

/-! ### Tokens without offsets -/

/-- Where a text begins has no influence on its tokens. -/
theorem map_token_lexFrom (offset : Nat) (cs : List Char) :
    (lexFrom offset cs).map (·.token) = tokensOf cs := by
  rw [← Nat.add_zero offset, lexFrom_add, List.map_map]
  rfl

section
variable {c : Char} {cs rest : List Char}

theorem tokensOf_nil : tokensOf [] = [.endOfQuery] := by
  rw [tokensOf, lexFrom_nil]
  rfl

theorem tokensOf_blank (hc : isBlank c = true) : tokensOf (c :: cs) = tokensOf cs := by
  rw [tokensOf, lexFrom_blank hc, map_token_lexFrom]

theorem tokensOf_openParen : tokensOf ('(' :: cs) = .openParen :: tokensOf cs := by
  rw [tokensOf, lexFrom_openParen, List.map_cons, map_token_lexFrom]

theorem tokensOf_closeParen : tokensOf (')' :: cs) = .closeParen :: tokensOf cs := by
  rw [tokensOf, lexFrom_closeParen, List.map_cons, map_token_lexFrom]

theorem tokensOf_phrase {text : List Char} (htext : '"' ∉ text) :
    tokensOf ('"' :: (text ++ '"' :: rest)) = .phrase (String.ofList text) :: tokensOf rest := by
  rw [tokensOf, lexFrom_phrase htext, List.map_cons, map_token_lexFrom]

theorem tokensOf_openPhrase {text : List Char} (htext : '"' ∉ text) :
    tokensOf ('"' :: text) = [.phrase (String.ofList text), .endOfQuery] := by
  rw [tokensOf, lexFrom_openPhrase htext]
  rfl

theorem tokensOf_word {word : List Char} (hne : word ≠ [])
    (hword : ∀ c ∈ word, isWordChar c = true) (hrest : ∀ c ∈ rest.head?, isWordChar c = false) :
    tokensOf (word ++ rest) = .ofWord (String.ofList word) :: tokensOf rest := by
  rw [tokensOf, lexFrom_word hne hword hrest, List.map_cons, map_token_lexFrom]

end

/-- The tokens of a text that closes all its phrases, in front of more text. -/
theorem tokensOf_append {cs rest : List Char} (hquotes : Even (cs.count '"'))
    (hrest : ∀ c ∈ rest.head?, isWordChar c = false) :
    tokensOf (cs ++ rest) = (tokensOf cs).dropLast ++ tokensOf rest := by
  rw [tokensOf, lexFrom_append hquotes hrest, List.map_append, List.map_dropLast,
    map_token_lexFrom, map_token_lexFrom]

/-! ### What every row of tokens has in common -/

/-- A word is an operator or a term. -/
theorem Token.ofWord_cases (word : String) :
    Token.ofWord word = .and ∨ Token.ofWord word = .or ∨ Token.ofWord word = .not ∨
      Token.ofWord word = .term word := by
  unfold Token.ofWord Token.keyword?
  dsimp only
  split_ifs
  · exact .inl rfl
  · exact .inr (.inl rfl)
  · exact .inr (.inr (.inl rfl))
  · exact .inr (.inr (.inr rfl))

/-- The text of a word or a phrase. -/
def Token.text? : Token → Option String
  | .term text | .phrase text => some text
  | _ => none

/-- No text of a token holds a quote. -/
theorem quote_notMem_text {cs : List Char} {t : Token} (ht : t ∈ tokensOf cs) {text : String}
    (htext : t.text? = some text) : '"' ∉ text.toList := by
  induction cs using text_induction with
  | nil =>
      rw [tokensOf_nil] at ht
      rw [List.mem_singleton.mp ht] at htext
      cases htext
  | blank c cs hc ih => exact ih (tokensOf_blank hc ▸ ht)
  | openParen cs ih =>
      rcases List.mem_cons.mp (tokensOf_openParen ▸ ht) with rfl | ht
      · cases htext
      · exact ih ht
  | closeParen cs ih =>
      rcases List.mem_cons.mp (tokensOf_closeParen ▸ ht) with rfl | ht
      · cases htext
      · exact ih ht
  | phrase phrase rest hphrase ih =>
      rcases List.mem_cons.mp (tokensOf_phrase hphrase ▸ ht) with rfl | ht
      · cases htext
        rwa [String.toList_ofList]
      · exact ih ht
  | openPhrase phrase hphrase =>
      rw [tokensOf_openPhrase hphrase] at ht
      rcases List.mem_cons.mp ht with rfl | ht
      · cases htext
        rwa [String.toList_ofList]
      · rw [List.mem_singleton.mp ht] at htext
        cases htext
  | word word rest hne hword hrest ih =>
      rcases List.mem_cons.mp (tokensOf_word hne hword hrest ▸ ht) with rfl | ht
      · rcases Token.ofWord_cases (String.ofList word) with h | h | h | h <;> rw [h] at htext <;>
          cases htext
        -- an operator has no text, so the word is a term and its own text
        rw [String.toList_ofList]
        intro hquote
        exact (isWordChar_iff.mp (hword _ hquote)).2.2.2 rfl
      · exact ih ht

/-- The end of the query is the last token and no other. -/
theorem tokensOf_eq_append (cs : List Char) :
    ∃ ts, tokensOf cs = ts ++ [.endOfQuery] ∧ Token.endOfQuery ∉ ts := by
  induction cs using text_induction with
  | nil => exact ⟨[], tokensOf_nil, List.not_mem_nil⟩
  | blank c cs hc ih => rwa [tokensOf_blank hc]
  | openParen cs ih =>
      obtain ⟨ts, hts, hend⟩ := ih
      exact ⟨_ :: ts, by rw [tokensOf_openParen, hts]; rfl, by simpa using hend⟩
  | closeParen cs ih =>
      obtain ⟨ts, hts, hend⟩ := ih
      exact ⟨_ :: ts, by rw [tokensOf_closeParen, hts]; rfl, by simpa using hend⟩
  | phrase text rest htext ih =>
      obtain ⟨ts, hts, hend⟩ := ih
      exact ⟨_ :: ts, by rw [tokensOf_phrase htext, hts]; rfl, by simpa using hend⟩
  | openPhrase text htext => exact ⟨[_], tokensOf_openPhrase htext, by simp⟩
  | word word rest hne hword hrest ih =>
      obtain ⟨ts, hts, hend⟩ := ih
      refine ⟨_ :: ts, by rw [tokensOf_word hne hword hrest, hts]; rfl, ?_⟩
      rcases Token.ofWord_cases (String.ofList word) with h | h | h | h <;> rw [h] <;>
        simpa using hend

end LedgerSearch.Query
