import LedgerSearch.Cli.Basic
import LedgerSearch.Proofs.Query.Tiling
import Mathlib

/-!
# `LedgerSearch.Proofs.Cli.QueryWords`: a query given as several arguments

On the command line a query may come in several arguments, which are joined with blanks. Whoever
writes `tally search costa OR "gold card"` thinks of three arguments and of the tokens in each of
them, not of the text that they make up. `lex_joinWords` says that this is right: the tokens of the
query are those of its arguments, one after the other, at the offsets that the arguments have in the
query.

An argument must close its phrases. If it does not, the phrase runs on over the blank into the next
argument; only the last one has nothing behind it that could be swallowed. The lexer is then back in
its first state at each blank, which is what `lexFrom_append` says of it, and what remains is an
induction along the arguments.
-/

set_option autoImplicit false

namespace LedgerSearch.Cli

open LedgerSearch.Query LedgerSearch.Text

/-- The byte offset in the query of the argument with a number: in front of it stand the arguments
before it, each with a blank behind it. -/
def argumentOffset (words : List String) (index : Nat) : Nat :=
  ((words.take index).map fun word => word.utf8ByteSize + 1).sum

/-- The tokens of each argument read on its own, without its end, at its offset in the query. -/
def lexemesOfArguments (words : List String) : List Lexeme :=
  words.zipIdx.flatMap fun (word, index) =>
    ((lex word).filter (·.token ≠ .endOfQuery)).map (Lexeme.shift (argumentOffset words index))

/-! ### One argument -/

/-- The end of the query is the last token of a text and no other, so leaving out the one is leaving
out the other. -/
theorem dropLast_lex (word : String) :
    (lex word).dropLast = (lex word).filter (·.token ≠ .endOfQuery) := by
  obtain ⟨front, hlex, hfront⟩ := (tiles_lexFrom 0 word.toList).ends
  have hkeep : front.filter (·.token ≠ .endOfQuery) = front := by
    refine List.filter_eq_self.mpr fun x hx => ?_
    exact decide_eq_true (hfront x hx)
  show (lexFrom 0 word.toList).dropLast = (lexFrom 0 word.toList).filter _
  rw [hlex, List.dropLast_concat, List.filter_append, hkeep]
  exact (List.append_nil front).symm

theorem lex_eq_concat (word : String) :
    lex word = (lex word).filter (·.token ≠ .endOfQuery) ++ [⟨.endOfQuery, word.utf8ByteSize⟩] := by
  obtain ⟨front, hlex, -⟩ := (tiles_lexFrom 0 word.toList).ends
  rw [Nat.zero_add, byteLength_toList] at hlex
  rw [← dropLast_lex]
  show lexFrom 0 word.toList = (lexFrom 0 word.toList).dropLast ++ _
  rw [hlex, List.dropLast_concat]

/-! ### One argument and those behind it -/

theorem argumentOffset_cons (word : String) (words : List String) (index : Nat) :
    argumentOffset (word :: words) (index + 1)
      = word.utf8ByteSize + 1 + argumentOffset words index := by
  rw [argumentOffset, List.take_succ_cons, List.map_cons, List.sum_cons]
  rfl

theorem shift_zero (lexemes : List Lexeme) : lexemes.map (Lexeme.shift 0) = lexemes := by
  have hid : Lexeme.shift 0 = id := by
    funext lexeme
    rw [Lexeme.shift, Nat.zero_add]
    rfl
  rw [hid, List.map_id]

/-- Behind the first argument and its blank come the tokens of the others. -/
theorem lexemesOfArguments_cons (word : String) (words : List String) :
    lexemesOfArguments (word :: words)
      = (lex word).filter (·.token ≠ .endOfQuery)
        ++ (lexemesOfArguments words).map (Lexeme.shift (word.utf8ByteSize + 1)) := by
  have hshift : ∀ m n, (Lexeme.shift m ∘ Lexeme.shift n) = Lexeme.shift (m + n) := by
    intro m n
    funext lexeme
    simp only [Function.comp, Lexeme.shift, Nat.add_assoc]
  rw [lexemesOfArguments, List.zipIdx_cons, List.flatMap_cons]
  congr 1
  · exact shift_zero _
  · -- the numbers of the other arguments are one higher than among themselves
    rw [Nat.zero_add, List.zipIdx_succ, List.flatMap_map, lexemesOfArguments, List.map_flatMap]
    refine List.flatMap_congr ?_
    rintro ⟨other, index⟩ -
    dsimp only
    rw [argumentOffset_cons, List.map_map, hshift]

/-! ### All arguments -/

/-- **The tokens of a query are those of its arguments.** The arguments are joined with blanks, and
all but the last close their phrases. Then the tokens of the query are those that each argument has
on its own, moved to where it stands in the query, and the end of the query behind them. -/
theorem lex_joinWords {words : List String}
    (h : ∀ word ∈ words.dropLast, Even (word.toList.count '"')) :
    lex (joinWords words)
      = lexemesOfArguments words ++ [⟨.endOfQuery, (joinWords words).utf8ByteSize⟩] := by
  induction words with
  | nil => exact lexFrom_nil
  | cons word words ih =>
      cases words with
      | nil =>
          -- the last argument has no blank behind it, and its phrases may stay open
          have hjoin : joinWords [word] = word := String.intercalate_singleton
          have hnone : lexemesOfArguments [] = [] := rfl
          rw [lexemesOfArguments_cons, hjoin, hnone, List.map_nil, List.append_nil]
          exact lex_eq_concat word
      | cons next words =>
          have hquotes : Even (word.toList.count '"') := h word List.mem_cons_self
          have ih := ih fun other hother => h other (List.mem_cons_of_mem word hother)
          have hchars : (joinWords (word :: next :: words)).toList
              = word.toList ++ ' ' :: (joinWords (next :: words)).toList := by
            rw [joinWords, String.intercalate_cons_cons]
            simp [joinWords]
          have hsize : (joinWords (word :: next :: words)).utf8ByteSize
              = word.utf8ByteSize + 1 + (joinWords (next :: words)).utf8ByteSize := by
            rw [← byteLength_toList, hchars, byteLength_append, byteLength, byteLength_toList,
              byteLength_toList, ← Nat.add_assoc]
            rfl
          rw [lexemesOfArguments_cons, hsize, lex, hchars,
            lexFrom_append hquotes (by rintro c ⟨⟩; decide), lexFrom_blank (by decide),
            Nat.zero_add, byteLength_toList]
          -- the rest of the query is a query of its own, further on
          have hrest : lexFrom (word.utf8ByteSize + ' '.utf8Size) (joinWords (next :: words)).toList
              = (lex (joinWords (next :: words))).map (Lexeme.shift (word.utf8ByteSize + 1)) :=
            lexFrom_add (word.utf8ByteSize + 1) 0 _
          rw [hrest, ih, List.map_append, ← List.append_assoc]
          congr 2
          exact dropLast_lex word

/-- A phrase of two words, an operator, a quote in the middle of a word with a blank argument behind
it, and a phrase at the end that is never closed. The accents take two bytes each. -/
theorem lex_joinWords_open_phrase :
    let words := ["\"café noir\"", "OR", "é\"b\"", "", "(\"x y"]
    (∀ word ∈ words.dropLast, Even (word.toList.count '"')) ∧
      lex (joinWords words)
        = lexemesOfArguments words ++ [⟨.endOfQuery, (joinWords words).utf8ByteSize⟩] ∧
      lexemesOfArguments words
        = [⟨.phrase "café noir", 0⟩, ⟨.or, 13⟩, ⟨.term "é", 16⟩, ⟨.phrase "b", 18⟩,
          ⟨.openParen, 23⟩, ⟨.phrase "x y", 24⟩] := by
  intro words
  have h : ∀ word ∈ words.dropLast, Even (word.toList.count '"') := by decide
  exact ⟨h, lex_joinWords h, by decide +kernel⟩

end LedgerSearch.Cli
