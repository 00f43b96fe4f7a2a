import LedgerSearch.Proofs.Json.Number

/-!
# `LedgerSearch.Proofs.Json.Token`: tokens that are written out are read back

A JSON text is written piece by piece, and each piece is to be read as its own tokens whatever
stands behind it. `Spells` says that of a piece of text. Only a number can go on in what follows, so
the condition on the rest is that it delimits a number, which all that the printer puts behind a
value does.

Marks and words are read by looking at them (`tokens_cons`). A number comes from
`LedgerSearch.Proofs.Json.Number`. For a string every character of the text is read back from its
escape (`readPieces_escapeChar`), so that any text survives: quotes, control characters and all
others.
-/

set_option autoImplicit false

namespace LedgerSearch.Json

variable {cs rest : List Char} {t : Token} {ts us : List Token}

/-! ### Tokens one after another -/

/-- White space in front adds no token. -/
theorem tokens_of_isSpace {c : Char} (h : isSpace c = true) : tokens (c :: cs) = tokens cs := by
  rw [tokens, if_pos h]

/-- White space in front adds no token, however much there is. -/
theorem tokens_gap {gap : List Char} (h : ∀ c ∈ gap, isSpace c = true) :
    tokens (gap ++ cs) = tokens cs := by
  induction gap with
  | nil => rfl
  | cons c gap ih =>
      rw [List.cons_append, tokens_of_isSpace (h c List.mem_cons_self)]
      exact ih fun d hd => h d (List.mem_cons_of_mem c hd)

/-- No token begins with white space. -/
theorem readToken_of_isSpace {c : Char} (h : isSpace c = true) : readToken (c :: cs) = none := by
  have hc : c = ' ' ∨ c = '\t' ∨ c = '\n' ∨ c = '\r' := by
    simpa [isSpace, or_assoc] using h
  rcases hc with rfl | rfl | rfl | rfl <;>
    simp [readToken, readNumber, readSign, readWhole, readDigits]

/-- The first token of a text. -/
theorem tokens_cons (h : readToken cs = some (t, rest)) :
    tokens cs = (tokens rest).map (t :: ·) := by
  cases cs with
  | nil => simp [readToken] at h
  | cons c cs =>
      have hspace : isSpace c ≠ true := fun hc => by simp [readToken_of_isSpace hc] at h
      rw [tokens, if_neg hspace]
      split
      case h_1 hnone => simp [hnone] at h
      case h_2 u r hsome =>
        obtain ⟨rfl, rfl⟩ := Prod.mk.inj (Option.some.inj (hsome.symm.trans h))
        rfl

/-- The text is read as the tokens, whatever stands behind it that does not go on with a number. -/
def Spells (s : List Char) (ts : List Token) : Prop :=
  ∀ rest, Delimits rest → tokens (s ++ rest) = (tokens rest).map (ts ++ ·)

theorem delimits_nil : Delimits [] :=
  nofun

/-- Two pieces, of which the second does not go on with a number of the first. -/
theorem Spells.append {s s' : List Char} (h : Spells s ts) (h' : Spells s' us)
    (hs' : ∀ rest, Delimits (s' ++ rest)) : Spells (s ++ s') (ts ++ us) := by
  intro rest hrest
  rw [List.append_assoc, h _ (hs' rest), h' rest hrest, Option.map_map]
  exact congrArg (Option.map · _) (funext fun vs => (List.append_assoc ts us vs).symm)

/-- The text is a mark: it is read as the token, whatever stands behind it. -/
def Marks (s : List Char) (t : Token) : Prop :=
  ∀ rest, tokens (s ++ rest) = (tokens rest).map (t :: ·)

/-- A mark in front of a piece. -/
theorem Marks.append {s s' : List Char} (h : Marks s t) (h' : Spells s' us) :
    Spells (s ++ s') (t :: us) := by
  intro rest hrest
  rw [List.append_assoc, h, h' rest hrest, Option.map_map]
  rfl

theorem Marks.spells {s : List Char} (h : Marks s t) : Spells s [t] :=
  fun rest _ => h rest

/-- White space in front of a piece. -/
theorem Spells.gap {gap s : List Char} (hgap : ∀ c ∈ gap, isSpace c = true) (h : Spells s ts) :
    Spells (gap ++ s) ts := by
  intro rest hrest
  rw [List.append_assoc, tokens_gap hgap, h rest hrest]

/-! ### The tokens of which a text consists -/

theorem marks_of_readToken {s : List Char} (h : ∀ rest, readToken (s ++ rest) = some (t, rest)) :
    Marks s t :=
  fun rest => tokens_cons (h rest)

theorem marks_openBracket : Marks "[".toList .openBracket := marks_of_readToken fun _ => rfl
theorem marks_closeBracket : Marks "]".toList .closeBracket := marks_of_readToken fun _ => rfl
theorem marks_openBrace : Marks "\x7b".toList .openBrace := marks_of_readToken fun _ => rfl
theorem marks_closeBrace : Marks "\x7d".toList .closeBrace := marks_of_readToken fun _ => rfl
theorem marks_comma : Marks ",".toList .comma := marks_of_readToken fun _ => rfl
theorem marks_colon : Marks ":".toList .colon := marks_of_readToken fun _ => rfl
theorem marks_null : Marks "null".toList .null := marks_of_readToken fun _ => rfl

theorem marks_bool (b : Bool) : Marks (if b then "true" else "false").toList (.bool b) := by
  cases b <;> exact marks_of_readToken fun _ => rfl

/-- A digit or a minus sign begins a number. -/
theorem readToken_of_number {c : Char} (h : c.isDigit = true ∨ c = '-') :
    readToken (c :: cs) = (readNumber (c :: cs)).map fun r => (.number r.1, r.2) := by
  unfold readToken
  split
  case h_12 => rfl
  case h_1 heq => cases heq
  all_goals
    rename_i heq
    obtain ⟨rfl, -⟩ := List.cons.inj heq
    exact absurd h (by decide)

/-- A number begins with a digit or a minus sign. -/
theorem exists_toList_render (n : Number) :
    ∃ c cs, n.render.toList = c :: cs ∧ (c.isDigit = true ∨ c = '-') := by
  obtain ⟨d, ds, hds⟩ := List.exists_cons_of_ne_nil (Number.digits_ne_nil n.whole)
  rw [toList_render, hds]
  cases n.negative with
  | true => exact ⟨'-', _, rfl, .inr rfl⟩
  | false => exact ⟨Number.charOf d, _, rfl, .inl (Number.isDigit_charOf d)⟩

/-- A number is read as it was written. -/
theorem spells_number (n : Number) : Spells n.render.toList [.number n] := by
  intro rest hrest
  refine tokens_cons ?_
  obtain ⟨c, cs, heq, hc⟩ := exists_toList_render n
  have hread := readNumber_render n hrest
  rw [heq, List.cons_append] at hread ⊢
  rw [readToken_of_number hc, hread, Option.map_some]

/-! ### Strings -/

/-- An escape with one letter. -/
theorem readPieces_escaped {e c : Char} (he : e ≠ 'u') (hc : escaped? e = some c) (cs : List Char) :
    readPieces ('\\' :: e :: cs) = (readPieces cs).map fun r => (.char c :: r.1, r.2) := by
  rw [readPieces.eq_def]
  simp [he, hc]

/-- An escape with four hexadecimal digits. -/
theorem readPieces_hex {d₁ d₂ d₃ d₄ : Char} {n : Nat}
    (h : Text.hexNumber? 0 [d₁, d₂, d₃, d₄] = some n) (cs : List Char) :
    readPieces ('\\' :: 'u' :: d₁ :: d₂ :: d₃ :: d₄ :: cs)
      = (readPieces cs).map fun r => (.ofUnit n :: r.1, r.2) := by
  rw [readPieces.eq_def]
  simp [h]

/-- A character that stands for itself. -/
theorem readPieces_plain {c : Char} (hquote : c ≠ '"') (hslash : c ≠ '\\')
    (hcontrol : ¬c.toNat < 0x20) (cs : List Char) :
    readPieces (c :: cs) = (readPieces cs).map fun r => (.char c :: r.1, r.2) := by
  rw [readPieces.eq_def]
  simp only [if_neg hquote, if_neg hslash, if_neg hcontrol]

/-- A control character can be read off its hexadecimal escape. -/
theorem hexNumber?_control {n : Nat} (h : n < 0x20) :
    Text.hexNumber? 0 ['0', '0', Nat.digitChar (n / 16), Nat.digitChar (n % 16)] = some n := by
  revert n
  decide

/-- Every character is read back from the way it is written. -/
theorem readPieces_escapeChar (c : Char) (cs : List Char) :
    readPieces (escapeChar c ++ cs) = (readPieces cs).map fun r => (.char c :: r.1, r.2) := by
  unfold escapeChar
  split_ifs with hquote hslash hb hf hn hr ht hcontrol
  case pos => rw [hquote]; exact readPieces_escaped (by decide) rfl cs
  case pos => rw [hslash]; exact readPieces_escaped (by decide) rfl cs
  case pos => rw [hb]; exact readPieces_escaped (by decide) rfl cs
  case pos => rw [hf]; exact readPieces_escaped (by decide) rfl cs
  case pos => rw [hn]; exact readPieces_escaped (by decide) rfl cs
  case pos => rw [hr]; exact readPieces_escaped (by decide) rfl cs
  case pos => rw [ht]; exact readPieces_escaped (by decide) rfl cs
  case pos =>
    have hunit : Piece.ofUnit c.toNat = .char c := by
      rw [Piece.ofUnit, if_neg (by omega), Char.ofNat_toNat]
    rw [← hunit]
    exact readPieces_hex (hexNumber?_control hcontrol) cs
  case neg => exact readPieces_plain hquote hslash hcontrol cs

/-- The text of a literal is read back. -/
theorem readLiteral_append (s rest : List Char) :
    readLiteral (s.flatMap escapeChar ++ '"' :: rest) = some (some (String.ofList s), rest) := by
  have hpieces : readPieces (s.flatMap escapeChar ++ '"' :: rest) = some (s.map .char, rest) := by
    induction s with
    | nil => exact readPieces_quote rest
    | cons c s ih =>
        rw [List.flatMap_cons, List.append_assoc, readPieces_escapeChar, ih]
        rfl
  have hjoin : joinPieces (s.map .char) = some s := by
    clear hpieces
    induction s with
    | nil => rfl
    | cons c s ih => rw [List.map_cons, joinPieces, ih, Option.map_some]
  rw [readLiteral, hpieces, Option.map_some, hjoin, Option.map_some]

/-- **Every text survives its string literal.** -/
theorem marks_quote (s : String) : Marks (quote s).toList (.string (some s)) := by
  refine marks_of_readToken fun rest => ?_
  have hread := readLiteral_append s.toList rest
  rw [String.ofList_toList] at hread
  rw [quote, String.toList_ofList, List.cons_append, List.append_assoc]
  show (readLiteral (s.toList.flatMap escapeChar ++ '"' :: rest)).map _ = _
  rw [hread, Option.map_some]

end LedgerSearch.Json
