import LedgerSearch.Text.Bytes

/-!
# `LedgerSearch.Proofs.Text.Bytes`: counting bytes along a text

`byteLength` counts the bytes of the characters one by one. It agrees with the size of the text as a
`String` (`byteLength_toList`), it is additive, and it grows with every character. So a part of a
text can be given by the two byte offsets that it stands between (`StandsBetween`), and a text is cut
in two at the byte offset that its front takes (`splitAtByte_append`).
-/

set_option autoImplicit false

namespace LedgerSearch.Text

/-- The part stands in the text from the one byte offset up to the other, and `after` follows it.
Both offsets are places where a character begins or the text ends. -/
def StandsBetween (cs : List Char) (start stop : Nat) (part after : List Char) : Prop :=
  ∃ before, cs = before ++ part ++ after ∧ byteLength before = start ∧
    byteLength (before ++ part) = stop

@[simp]
theorem byteLength_append (cs ds : List Char) :
    byteLength (cs ++ ds) = byteLength cs + byteLength ds := by
  induction cs with
  | nil => exact (Nat.zero_add _).symm
  | cons c cs ih => rw [List.cons_append, byteLength, byteLength, ih, Nat.add_assoc]

theorem byteLength_pos {cs : List Char} (h : cs ≠ []) : 0 < byteLength cs := by
  cases cs with
  | nil => exact absurd rfl h
  | cons c cs => exact Nat.add_pos_left c.utf8Size_pos _

theorem byteLength_toList (s : String) : byteLength s.toList = s.utf8ByteSize := by
  suffices h : ∀ cs, byteLength cs = (String.ofList cs).utf8ByteSize by
    rw [h, String.ofList_toList]
  intro cs
  induction cs with
  | nil => rfl
  | cons c cs ih =>
      have hsplit : String.ofList (c :: cs) = String.singleton c ++ String.ofList cs := by
        rw [String.singleton_eq_ofList, ← String.ofList_append]
        rfl
      rw [byteLength, ih, hsplit, String.utf8ByteSize_append, String.utf8ByteSize_singleton]

/-- A cut behind a character is a cut in what follows it. -/
theorem splitAtByte_cons_add (c : Char) (cs : List Char) (offset : Nat) :
    splitAtByte (c :: cs) (c.utf8Size + offset)
      = (splitAtByte cs offset).map fun parts => (c :: parts.1, parts.2) := by
  have hne : c.utf8Size + offset ≠ 0 := Nat.ne_of_gt (Nat.add_pos_left c.utf8Size_pos offset)
  rw [splitAtByte, if_pos (Nat.le_add_right _ _), Nat.add_sub_cancel_left]
  exact hne

/-- Cut behind as many bytes as its front takes, a text falls into this front and the rest. -/
theorem splitAtByte_append (front rest : List Char) :
    splitAtByte (front ++ rest) (byteLength front) = some (front, rest) := by
  induction front with
  | nil => cases rest <;> rfl
  | cons c front ih =>
      rw [List.cons_append, byteLength, splitAtByte_cons_add, ih]
      rfl

end LedgerSearch.Text
