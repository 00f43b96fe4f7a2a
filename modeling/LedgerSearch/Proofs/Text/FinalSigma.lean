import LedgerSearch.Text.LowerCase

/-!
# `LedgerSearch.Proofs.Text.FinalSigma`: when a part of a text keeps its lower-case form

A part of a text need not occur in the text once both are in lower case. `ΜΟΥΣ` is a part of
`ΜΟΥΣΕΙΟ`, but its sigma ends a word only as long as nothing follows, so `μους` is no part of
`μουσειο`. All other characters have their form to themselves.

A sigma is written in its final form behind a cased letter with no cased letter next, and on either
side characters are looked through until one decides. Where the part itself settles both questions,
or one of them in the way that already excludes the final form, what stands around the part has no
say (`SettlesSigma`). `lower_infix_iff_settled` states that this is the exact condition: a part of
which it holds for every sigma (`SigmasSettled`) is found in the lower-case form of every text that
it is a part of, and any other part is lost in some text.

To lose it a single letter is enough, put in front of the part or behind it. It changes one sigma
and nothing else, so the longer text has one sigma of the needed form fewer, and the part cannot
occur in it.
-/

set_option autoImplicit false

namespace LedgerSearch.Text

/-! ### Neighbours -/

/-- All characters are looked through. -/
def LooksThrough (cs : List Char) : Prop :=
  ∀ c ∈ cs, isCaseIgnorable c = true

/-- A cased letter stands in front of what follows the text, which itself stands after one
(`afterCased`) or does not. -/
def casedBefore (afterCased : Bool) (cs : List Char) : Bool :=
  cs.foldl (fun before c => if isCaseIgnorable c then before else isCased c) afterCased

section
variable {afterCased : Bool} {c : Char} {cs next : List Char}

theorem casedBefore_of_looksThrough (h : LooksThrough cs) :
    casedBefore afterCased cs = afterCased := by
  induction cs with
  | nil => rfl
  | cons c cs ih =>
      obtain ⟨hc, hcs⟩ := List.forall_mem_cons.mp h
      rw [casedBefore, List.foldl_cons, if_pos hc]
      exact ih hcs

/-- A character that is not looked through hides what stands in front of it. -/
theorem casedBefore_of_not_looksThrough (h : ¬ LooksThrough cs) :
    casedBefore afterCased cs = casedBefore false cs := by
  induction cs generalizing afterCased with
  | nil => exact absurd (fun c hc => absurd hc List.not_mem_nil) h
  | cons c cs ih =>
      simp only [casedBefore, List.foldl_cons]
      by_cases hc : isCaseIgnorable c = true
      · rw [if_pos hc, if_pos hc]
        exact ih fun hcs => h (List.forall_mem_cons.mpr ⟨hc, hcs⟩)
      · rw [if_neg hc, if_neg hc]

theorem casedNext_cons :
    casedNext (c :: cs) = if isCaseIgnorable c then casedNext cs else isCased c := by
  by_cases hc : isCaseIgnorable c = true
  · rw [if_pos hc, casedNext, List.dropWhile_cons_of_pos hc, casedNext]
  · rw [if_neg hc, casedNext, List.dropWhile_cons_of_neg hc]

theorem casedNext_append_of_looksThrough (h : LooksThrough cs) :
    casedNext (cs ++ next) = casedNext next := by
  rw [casedNext, List.dropWhile_append_of_pos h, casedNext]

theorem casedNext_of_looksThrough (h : LooksThrough cs) : casedNext cs = false := by
  have hnext : casedNext (cs ++ []) = casedNext [] := casedNext_append_of_looksThrough h
  rwa [List.append_nil] at hnext

/-- A character that is not looked through hides what stands behind it. -/
theorem casedNext_append_of_not_looksThrough (h : ¬ LooksThrough cs) :
    casedNext (cs ++ next) = casedNext cs := by
  induction cs with
  | nil => exact absurd (fun c hc => absurd hc List.not_mem_nil) h
  | cons c cs ih =>
      rw [List.cons_append, casedNext_cons, casedNext_cons]
      by_cases hc : isCaseIgnorable c = true
      · rw [if_pos hc, if_pos hc]
        exact ih fun hcs => h (List.forall_mem_cons.mpr ⟨hc, hcs⟩)
      · rw [if_neg hc, if_neg hc]

/-- Sigmas and small letters are letters when neighbours are looked for. -/
theorem neighbours_checked :
    (isCaseIgnorable 'Σ' = false ∧ isCased 'Σ' = true) ∧
      isCaseIgnorable 'a' = false ∧ isCased 'a' = true ∧ lowerChar 'a' = ['a'] := by
  decide +kernel

theorem casedNext_a : casedNext ('a' :: cs) = true := by
  obtain ⟨-, hignorable, hcased, -⟩ := neighbours_checked
  rw [casedNext_cons, hignorable]
  exact hcased

end

/-! ### The lower-case form of a part -/

/-- The lower-case form that a text has between what comes before it and what comes next. -/
def lowerBetween (afterCased : Bool) (cs next : List Char) : List Char :=
  match cs with
  | [] => []
  | c :: cs =>
    (if c = 'Σ' then [if afterCased && !casedNext (cs ++ next) then 'ς' else 'σ'] else lowerChar c)
      ++ lowerBetween (casedBefore afterCased [c]) cs next

section
variable {afterCased : Bool} {c : Char} {cs next next' : List Char}

theorem lowerBetween_cons :
    lowerBetween afterCased (c :: cs) next
      = (if c = 'Σ' then [if afterCased && !casedNext (cs ++ next) then 'ς' else 'σ']
          else lowerChar c) ++ lowerBetween (casedBefore afterCased [c]) cs next :=
  rfl

/-- The form of a text is made of the forms that its parts have where they stand. -/
theorem lowerAfter_append :
    lowerAfter afterCased (cs ++ next)
      = lowerBetween afterCased cs next ++ lowerAfter (casedBefore afterCased cs) next := by
  induction cs generalizing afterCased with
  | nil => rfl
  | cons c cs ih =>
      rw [List.cons_append, lowerAfter_cons, lowerBetween_cons, List.append_assoc]
      congr 1
      exact ih

/-- Alone, a text has nothing next. -/
theorem lowerBetween_nil : lowerBetween afterCased cs [] = lowerAfter afterCased cs := by
  have h : lowerAfter afterCased (cs ++ []) = _ := lowerAfter_append
  rw [List.append_nil, lowerAfter_nil, List.append_nil] at h
  exact h.symm

/-- No sigma is looked through, so such a text has a form of its own. -/
theorem lowerBetween_of_looksThrough (h : LooksThrough cs) :
    lowerBetween afterCased cs next = cs.flatMap lowerChar := by
  induction cs generalizing afterCased with
  | nil => rfl
  | cons c cs ih =>
      obtain ⟨hc, hcs⟩ := List.forall_mem_cons.mp h
      have hsigma : c ≠ 'Σ' := by
        rintro rfl
        rw [neighbours_checked.1.1] at hc
        cases hc
      rw [lowerBetween_cons, if_neg hsigma, List.flatMap_cons, ih hcs]

/-- Of what comes next, only the part up to a character that is not looked through matters. -/
theorem lowerBetween_append_cons (hc : isCaseIgnorable c = false) :
    lowerBetween afterCased cs (c :: next) = lowerBetween afterCased cs (c :: next') := by
  induction cs generalizing afterCased with
  | nil => rfl
  | cons d cs ih =>
      have hnext : casedNext (cs ++ c :: next) = casedNext (cs ++ c :: next') := by
        have hstop : ¬ LooksThrough (cs ++ [c]) := by
          intro h
          rw [h c (by simp)] at hc
          cases hc
        rw [List.append_cons cs c next, List.append_cons cs c next',
          casedNext_append_of_not_looksThrough hstop, casedNext_append_of_not_looksThrough hstop]
      rw [lowerBetween_cons, lowerBetween_cons, hnext, ih]

theorem lowerAfter_sigma :
    lowerAfter afterCased ('Σ' :: cs)
      = (if afterCased && !casedNext cs then 'ς' else 'σ') :: lowerAfter true cs := by
  obtain ⟨⟨hignorable, hcased⟩, -⟩ := neighbours_checked
  rw [lowerAfter_cons, if_pos rfl, hignorable, hcased]
  rfl

theorem lowerAfter_a : lowerAfter afterCased ('a' :: cs) = 'a' :: lowerAfter true cs := by
  obtain ⟨-, hignorable, hcased, hlower⟩ := neighbours_checked
  rw [lowerAfter_cons, if_neg (by decide), hignorable, hcased, hlower]
  rfl

end

/-! ### Settled sigmas -/

/-- What stands in front of `front` and behind `back` has no say in the form of a sigma between the
two. It could have one only where it is looked for, through the front or through the back. In the
first case a cased letter comes next, in the second none comes before, and either rules the final
form out. -/
structure SettlesSigma (front back : List Char) : Prop where
  casedNext_of_open : LooksThrough front → casedNext back = true
  not_casedBefore_of_open : LooksThrough back → casedBefore false front = false

/-- The text settles the form of each of its capital sigmas. -/
def SigmasSettled (cs : List Char) : Prop :=
  ∀ front back, cs = front ++ 'Σ' :: back → SettlesSigma front back

/-- The sigmas of a text, by their places. -/
theorem sigmasSettled_iff {cs : List Char} :
    SigmasSettled cs ↔
      ∀ i < cs.length, cs[i]? = some 'Σ' → SettlesSigma (cs.take i) (cs.drop (i + 1)) := by
  constructor
  · intro h i hi hsigma
    rw [List.getElem?_eq_getElem hi, Option.some_inj] at hsigma
    refine h _ _ ?_
    rw [← hsigma, ← List.drop_eq_getElem_cons hi, List.take_append_drop]
  · rintro h front back rfl
    simpa using h front.length (by simp) (by simp)

instance (cs : List Char) : Decidable (LooksThrough cs) :=
  List.decidableBAll _ cs

instance (front back : List Char) : Decidable (SettlesSigma front back) :=
  decidable_of_iff ((LooksThrough front → casedNext back = true) ∧
      (LooksThrough back → casedBefore false front = false))
    ⟨fun h => ⟨h.1, h.2⟩, fun h => ⟨h.1, h.2⟩⟩

instance (cs : List Char) : Decidable (SigmasSettled cs) :=
  decidable_of_iff _ sigmasSettled_iff.symm

/-- The form of a settled sigma is the one it has when nothing stands around. -/
theorem SettlesSigma.form_eq {front back : List Char} (h : SettlesSigma front back)
    (afterCased : Bool) (next : List Char) :
    (casedBefore afterCased front && !casedNext (back ++ next))
      = (casedBefore false front && !casedNext back) := by
  by_cases hback : LooksThrough back
  · have hfront : ¬ LooksThrough front := by
      intro hfront
      have hnext := h.casedNext_of_open hfront
      rw [casedNext_of_looksThrough hback] at hnext
      cases hnext
    rw [casedBefore_of_not_looksThrough hfront, h.not_casedBefore_of_open hback]
    rfl
  · rw [casedNext_append_of_not_looksThrough hback]
    by_cases hfront : LooksThrough front
    -- a cased letter comes next, so the sigma is not final on either side
    · rw [h.casedNext_of_open hfront, Bool.not_true, Bool.and_false, Bool.and_false]
    · rw [casedBefore_of_not_looksThrough hfront]

/-- A text that settles its sigmas has one form, wherever it stands. -/
theorem SigmasSettled.lowerBetween_eq {front cs : List Char} (h : SigmasSettled (front ++ cs))
    (afterCased : Bool) (next : List Char) :
    lowerBetween (casedBefore afterCased front) cs next
      = lowerBetween (casedBefore false front) cs [] := by
  induction cs generalizing front with
  | nil => rfl
  | cons c cs ih =>
      -- the character joins the front, which decides over the sigmas behind it
      have hstep : ∀ start, casedBefore (casedBefore start front) [c]
          = casedBefore start (front ++ [c]) := by
        intro start
        simp only [casedBefore, List.foldl_append]
      have hrest : SigmasSettled ((front ++ [c]) ++ cs) := by rwa [← List.append_cons]
      rw [lowerBetween_cons, lowerBetween_cons, hstep, hstep, ih hrest, List.append_nil]
      by_cases hsigma : c = 'Σ'
      · subst hsigma
        rw [(h front cs rfl).form_eq]
      · rw [if_neg hsigma, if_neg hsigma]

/-! ### Parts of a text -/

/-- A text that settles its sigmas is found wherever it is a part. -/
theorem SigmasSettled.lowerAfter_infix {needle hay : List Char} (h : SigmasSettled needle)
    (hpart : needle <:+: hay) : lowerAfter false needle <:+: lowerAfter false hay := by
  obtain ⟨front, back, rfl⟩ := hpart
  have hform : lowerBetween (casedBefore false front) needle back = lowerAfter false needle := by
    have hwhole : SigmasSettled ([] ++ needle) := h
    rw [← lowerBetween_nil]
    exact hwhole.lowerBetween_eq (casedBefore false front) back
  refine ⟨lowerBetween false front (needle ++ back),
    lowerAfter (casedBefore (casedBefore false front) needle) back, ?_⟩
  rw [List.append_assoc front, lowerAfter_append, lowerAfter_append, hform, List.append_assoc]

/-- A text has no part that holds a character more often. -/
theorem not_infix_of_count_lt {cs cs' : List Char} (c : Char) (h : cs'.count c < cs.count c) :
    ¬ cs <:+: cs' :=
  fun hpart => absurd (hpart.sublist.count_le c) (Nat.not_le.mpr h)

/-- A letter in front makes the first sigma final. -/
theorem not_lower_infix_cons {front back : List Char} (hfront : LooksThrough front)
    (hback : casedNext back = false) :
    ¬ lowerAfter false (front ++ 'Σ' :: back)
      <:+: lowerAfter false ('a' :: (front ++ 'Σ' :: back)) := by
  have hform : ∀ before, lowerAfter before (front ++ 'Σ' :: back)
      = front.flatMap lowerChar ++ (if before then 'ς' else 'σ') :: lowerAfter true back := by
    intro before
    rw [lowerAfter_append, lowerBetween_of_looksThrough hfront,
      casedBefore_of_looksThrough hfront, lowerAfter_sigma, hback, Bool.not_false, Bool.and_true]
  refine not_infix_of_count_lt 'σ' ?_
  rw [lowerAfter_a, hform, hform]
  simp

/-- A letter behind makes the last sigma one that is not final. -/
theorem not_lower_infix_append {front back : List Char} (hfront : casedBefore false front = true)
    (hback : LooksThrough back) :
    ¬ lowerAfter false (front ++ 'Σ' :: back)
      <:+: lowerAfter false (front ++ 'Σ' :: back ++ ['a']) := by
  have hform : ∀ next, lowerAfter false (front ++ 'Σ' :: (back ++ next))
      = lowerBetween false front ['Σ']
        ++ (if casedNext next then 'σ' else 'ς')
          :: (back.flatMap lowerChar ++ lowerAfter true next) := by
    intro next
    rw [lowerAfter_append, lowerBetween_append_cons neighbours_checked.1.1, hfront, lowerAfter_sigma,
      casedNext_append_of_looksThrough hback, lowerAfter_append,
      lowerBetween_of_looksThrough hback, casedBefore_of_looksThrough hback]
    cases casedNext next <;> rfl
  have halone := hform []
  rw [List.append_nil] at halone
  refine not_infix_of_count_lt 'ς' ?_
  rw [List.append_assoc, List.cons_append, halone, hform, casedNext_a, lowerAfter_a]
  simp [casedNext]

/-- **A part keeps its lower-case form exactly where it settles its sigmas.** Such a text is found
in lower case in every text that it is a part of, and no other text is. -/
theorem lower_infix_iff_settled {needle : List Char} :
    (∀ hay, needle <:+: hay → lowerAfter false needle <:+: lowerAfter false hay) ↔
      SigmasSettled needle := by
  constructor
  · rintro h front back rfl
    constructor
    · intro hfront
      rw [← Bool.not_eq_false]
      intro hback
      exact not_lower_infix_cons hfront hback (h _ (List.suffix_cons 'a' _).isInfix)
    · intro hback
      rw [← Bool.not_eq_true]
      intro hfront
      exact not_lower_infix_append hfront hback (h _ (List.prefix_append _ ['a']).isInfix)
  · intro h hay hpart
    exact h.lowerAfter_infix hpart

/-- Of a word that ends in a sigma, the blank behind it is to be copied as well. -/
example : SigmasSettled "ΣΟΦΟΣ ".toList ∧ ¬ SigmasSettled "ΣΟΦΟΣ".toList := by
  decide +kernel

end LedgerSearch.Text
