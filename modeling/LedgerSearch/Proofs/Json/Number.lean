import LedgerSearch.Json.Printer
import LedgerSearch.Json.Token
import Mathlib.Data.List.Basic
import Mathlib.Tactic.Ring

/-!
# `LedgerSearch.Proofs.Json.Number`: a written number is read back

`Number` keeps a number as it is written, so writing it out and reading it again must give the same
number and not only an equal one: the whole part without a leading zero, every digit behind the
point, and the exponent with the difference between an absent one and `e+0`. `readNumber_render`
says so for every number and every rest of a text that does not go on with the number (`Delimits`).

The parts of a number follow one another, so there is one lemma for each part in front of any rest.
They rest on the digits of a natural number: `digits` and `ofDigits` are inverse to each other
(`ofDigits_digits`), and the first digit is zero only for zero itself (`digits_leading`).
-/

set_option autoImplicit false

namespace LedgerSearch.Json

/-! ### Digits -/

namespace Number

/-- The character of a digit. -/
def charOf (d : Fin 10) : Char :=
  Nat.digitChar d.val

@[simp] theorem digitOf_charOf (d : Fin 10) : digitOf (charOf d) = d := by
  revert d
  decide

@[simp] theorem isDigit_charOf (d : Fin 10) : (charOf d).isDigit = true := by
  revert d
  decide

theorem charOf_digitOf {c : Char} (h : c.isDigit = true) : charOf (digitOf c) = c := by
  obtain ⟨hlow, hhigh⟩ : 48 ≤ c.toNat ∧ c.toNat ≤ 57 := by
    simpa [Char.isDigit, UInt32.le_iff_toNat_le, and_comm] using h
  apply Char.toNat_inj.mp
  rw [charOf, Nat.toNat_digitChar_of_lt_ten (digitOf c).isLt]
  show 48 + (c.toNat - 48) % 10 = c.toNat
  omega

/-- The digits of a number, as characters. -/
theorem map_charOf_digits (n : Nat) : (digits n).map charOf = Nat.toDigits 10 n := by
  rw [digits, List.map_map]
  refine (List.map_congr_left fun c hc => ?_).trans (List.map_id _)
  exact charOf_digitOf (Nat.isDigit_of_mem_toDigits (by decide) (by decide) hc)

/-- A digit is its own digits. -/
theorem digits_of_lt {n : Nat} (h : n < 10) : digits n = [⟨n, h⟩] := by
  rw [digits, Nat.toDigits_of_lt_base h]
  exact congrArg (fun d => [d]) (digitOf_charOf ⟨n, h⟩)

/-- The digits of a larger number end with its last one. -/
theorem digits_of_le {n : Nat} (h : 10 ≤ n) :
    digits n = digits (n / 10) ++ [⟨n % 10, Nat.mod_lt n (by decide)⟩] := by
  rw [digits, Nat.toDigits_of_base_le (by decide) h, List.map_append]
  exact congrArg (digits (n / 10) ++ [·]) (digitOf_charOf ⟨n % 10, _⟩)

/-- The number of digits followed by more. -/
theorem ofDigits_append (ds es : List (Fin 10)) :
    ofDigits (ds ++ es) = ofDigits ds * 10 ^ es.length + ofDigits es := by
  have hfold : ∀ (es : List (Fin 10)) (acc : Nat),
      es.foldl (fun n d => n * 10 + d.val) acc = acc * 10 ^ es.length + ofDigits es := by
    intro es
    induction es with
    | nil => simp [ofDigits]
    | cons e es ih =>
        intro acc
        rw [ofDigits, List.foldl_cons, List.foldl_cons, ih, ih, List.length_cons, pow_succ]
        ring
  rw [ofDigits, List.foldl_append]
  exact hfold es _

theorem digits_ne_nil (n : Nat) : digits n ≠ [] := by
  simp [digits, Nat.toDigits_ne_nil]

/-- The digits of a number denote it. -/
theorem ofDigits_digits (n : Nat) : ofDigits (digits n) = n := by
  induction n using Nat.strongRecOn with
  | _ n ih =>
      by_cases h : n < 10
      case pos => simp [digits_of_lt h, ofDigits]
      case neg =>
        rw [digits_of_le (by omega), ofDigits_append, ih (n / 10) (by omega)]
        show n / 10 * 10 ^ 1 + (0 * 10 + n % 10) = n
        omega

/-- The digits of a number begin with zero only if that is all of them. -/
theorem digits_leading {n : Nat} {d : Fin 10} {ds : List (Fin 10)} (h : digits n = d :: ds)
    (hd : d.val = 0) : ds = [] := by
  induction n using Nat.strongRecOn generalizing ds with
  | _ n ih =>
      by_cases hn : n < 10
      case pos =>
        rw [digits_of_lt hn] at h
        exact (List.cons.inj h).2.symm
      case neg =>
        rw [digits_of_le (by omega)] at h
        obtain ⟨e, es, hes⟩ := List.exists_cons_of_ne_nil (digits_ne_nil (n / 10))
        rw [hes, List.cons_append] at h
        obtain ⟨rfl, -⟩ := List.cons.inj h
        -- then `n / 10` would be a single zero, although it is not zero
        have hsingle := ih (n / 10) (by omega) hes
        have hvalue := ofDigits_digits (n / 10)
        rw [hes, hsingle] at hvalue
        simp [ofDigits, hd] at hvalue
        omega

end Number

open Number

/-! ### The parts of a number in front of a rest -/

/-- The text does not go on with a digit. -/
def EndsDigits (rest : List Char) : Prop :=
  ∀ c ∈ rest.head?, c.isDigit = false

/-- No number at the end of which the text stands goes on in it. -/
def Delimits (rest : List Char) : Prop :=
  ∀ c ∈ rest.head?, c.isDigit = false ∧ c ≠ '.' ∧ c ≠ 'e' ∧ c ≠ 'E'

variable {rest : List Char}

theorem Delimits.endsDigits (h : Delimits rest) : EndsDigits rest :=
  fun c hc => (h c hc).1

/-- Digits are read up to where they end. -/
theorem readDigits_append (ds : List (Fin 10)) (h : EndsDigits rest) :
    readDigits (ds.map charOf ++ rest) = (ds, rest) := by
  have hdigits : ∀ c ∈ ds.map charOf, c.isDigit = true := fun c hc => by
    obtain ⟨d, -, rfl⟩ := List.mem_map.mp hc
    exact isDigit_charOf d
  have hrest : rest.takeWhile Char.isDigit = [] ∧ rest.dropWhile Char.isDigit = rest := by
    cases rest with
    | nil => exact ⟨rfl, rfl⟩
    | cons c cs => simp [h c rfl]
  rw [readDigits, List.takeWhile_append_of_pos hdigits, List.dropWhile_append_of_pos hdigits,
    hrest.1, hrest.2, List.append_nil, List.map_map]
  exact congrArg (·, rest) ((List.map_congr_left fun d _ => digitOf_charOf d).trans (List.map_id _))

/-- The whole part of a number. -/
theorem readWhole_append (n : Nat) (h : EndsDigits rest) :
    readWhole ((digits n).map charOf ++ rest) = some (n, rest) := by
  rw [readWhole, readDigits_append _ h]
  obtain ⟨d, ds, hds⟩ := List.exists_cons_of_ne_nil (digits_ne_nil n)
  have hleading : ¬(d.val = 0 ∧ ds ≠ []) := fun ⟨hd, hne⟩ => hne (digits_leading hds hd)
  rw [hds]
  simp only [if_neg hleading, ← hds, ofDigits_digits]

/-- How the digits behind the point are written. -/
def fractionChars (ds : List (Fin 10)) : List Char :=
  if ds = [] then [] else '.' :: ds.map charOf

/-- The digits behind the point. -/
theorem readFraction_append (ds : List (Fin 10)) (h : EndsDigits rest)
    (hpoint : '.' ∉ rest.head?) : readFraction (fractionChars ds ++ rest) = some (ds, rest) := by
  cases ds with
  | nil =>
      cases rest with
      | nil => rfl
      | cons c cs =>
          have hc : c ≠ '.' := fun hc => hpoint (hc ▸ rfl)
          simp [fractionChars, readFraction, hc]
  | cons d ds =>
      show readFraction ('.' :: ((d :: ds).map charOf ++ rest)) = _
      rw [readFraction, readDigits_append _ h]

/-- How an exponent is written. -/
def exponentChars : Option Int → List Char
  | none => []
  | some e => 'e' :: (if e < 0 then '-' else '+') :: (digits e.natAbs).map charOf

/-- The exponent. -/
theorem readExponent_append (e : Option Int) (h : Delimits rest) :
    readExponent (exponentChars e ++ rest) = some (e, rest) := by
  cases e with
  | none =>
      cases rest with
      | nil => rfl
      | cons c cs =>
          obtain ⟨-, -, he, hE⟩ := h c rfl
          simp [exponentChars, readExponent, he, hE]
  | some e =>
      have hdigits := readDigits_append (digits e.natAbs) h.endsDigits
      obtain ⟨d, ds, hds⟩ := List.exists_cons_of_ne_nil (digits_ne_nil e.natAbs)
      have hvalue : (ofDigits (d :: ds) : Int) = e.natAbs := by rw [← hds, ofDigits_digits]
      rw [hds] at hdigits
      by_cases he : e < 0
      case pos =>
        simp only [exponentChars, if_pos he, hds, List.cons_append, readExponent, exponentSign,
          true_or, if_true, hdigits, hvalue, Option.some.injEq, Prod.mk.injEq, and_true]
        omega
      case neg =>
        simp only [exponentChars, if_neg he, hds, List.cons_append, readExponent, exponentSign,
          true_or, if_true, hdigits, hvalue, Option.some.injEq, Prod.mk.injEq, and_true]
        omega

/-! ### A number in front of a rest -/

theorem toList_render (n : Number) :
    n.render.toList
      = (if n.negative then ['-'] else [])
        ++ ((digits n.whole).map charOf
          ++ (fractionChars n.fraction ++ exponentChars n.exponent)) := by
  have hnat : ∀ m : Nat, (toString m).toList = (digits m).map charOf := fun m => by
    rw [map_charOf_digits]
    exact Nat.toList_repr
  have hsign : (if n.negative = true then "-" else "").toList
      = if n.negative then ['-'] else [] := by
    split <;> rfl
  have hfraction : (if n.fraction = [] then ""
      else "." ++ String.ofList (n.fraction.map fun d => Nat.digitChar d.val)).toList
      = fractionChars n.fraction := by
    rw [fractionChars]
    split
    case isTrue => rfl
    case isFalse =>
      rw [String.toList_append]
      exact congrArg (".".toList ++ ·) String.toList_ofList
  have hmark (e : Int) : (if e < 0 then "e-" else "e+").toList
      = ['e', if e < 0 then '-' else '+'] := by
    split <;> rfl
  obtain ⟨negative, whole, fraction, exponent⟩ := n
  cases exponent with
  | none =>
      simp only [render, String.toList_append, hnat, hsign, hfraction, List.append_assoc]
      rfl
  | some e =>
      simp only [render, String.toList_append, hnat, hsign, hfraction, hmark, List.append_assoc]
      rfl

/-- What stands behind the whole part does not begin with a digit. -/
theorem endsDigits_parts (ds : List (Fin 10)) (e : Option Int) (h : Delimits rest) :
    EndsDigits (fractionChars ds ++ (exponentChars e ++ rest)) := by
  intro c hc
  cases ds with
  | nil =>
      cases e with
      | none => exact (h c hc).1
      | some e =>
          obtain rfl : 'e' = c := Option.some.inj hc
          rfl
  | cons d ds =>
      obtain rfl : '.' = c := Option.some.inj hc
      rfl

/-- What stands behind the digits does not begin with a digit or a point. -/
theorem head?_exponent (e : Option Int) (h : Delimits rest) {c : Char}
    (hc : c ∈ (exponentChars e ++ rest).head?) : c.isDigit = false ∧ c ≠ '.' := by
  cases e with
  | none => exact ⟨(h c hc).1, (h c hc).2.1⟩
  | some e =>
      obtain rfl : 'e' = c := Option.some.inj hc
      exact ⟨rfl, by decide⟩

/-- A sign is read, and its absence too. -/
theorem readSign_append (negative : Bool) {cs : List Char} (h : '-' ∉ cs.head?) :
    readSign ((if negative then ['-'] else []) ++ cs) = (negative, cs) := by
  cases negative with
  | true => rfl
  | false =>
      cases cs with
      | nil => rfl
      | cons c cs =>
          have hc : c ≠ '-' := fun hc => h (hc ▸ rfl)
          simp [readSign, hc]

/-- **A number is read as it was written.** Nothing of it is lost, and nothing behind it is taken
for a part of it. -/
theorem readNumber_render (n : Number) (h : Delimits rest) :
    readNumber (n.render.toList ++ rest) = some (n, rest) := by
  have hexponent := readExponent_append n.exponent h
  have hfraction := readFraction_append n.fraction (fun c hc => (head?_exponent n.exponent h hc).1)
    (fun hc => (head?_exponent n.exponent h hc).2 rfl)
  have hwhole := readWhole_append n.whole (endsDigits_parts n.fraction n.exponent h)
  have hminus : '-' ∉ ((digits n.whole).map charOf
      ++ (fractionChars n.fraction ++ (exponentChars n.exponent ++ rest))).head? := by
    obtain ⟨d, ds, hds⟩ := List.exists_cons_of_ne_nil (digits_ne_nil n.whole)
    rw [hds]
    intro hc
    have hdigit := isDigit_charOf d
    rw [Option.some.inj hc] at hdigit
    exact absurd hdigit (by decide)
  have hsign := readSign_append n.negative hminus
  rw [toList_render]
  simp only [List.append_assoc, readNumber, hsign, hwhole, hfraction, hexponent, Option.map_some]

end LedgerSearch.Json
