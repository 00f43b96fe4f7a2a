import LedgerSearch.Cli.Report
import LedgerSearch.Proofs.Json.Amount
import LedgerSearch.Proofs.Json.RoundTrip

/-!
# `LedgerSearch.Proofs.Ledger.Json`: a transaction that is written as JSON is read back

A transaction is written as an object with all its fields, and a report adds the names that its
references lead to, in the same object. A reader of ledgers takes such an object for a transaction
if no key comes twice and ignores what it does not know. `readTransaction_ofFields` says that it
reads the transaction that was written, whatever fields come behind those of the transaction, as
long as they have keys of their own.

Only the amount can change, to the number that its text denotes (`ReadsAs`). It has to be finite to
have a text at all, which the amounts of every ledger that was read are
(`isFinite_amount_of_parse`).

`parse_transactionsFile` passes from values to texts: a list of transactions, as it stands in a
text, makes a ledger file.
-/

set_option autoImplicit false

namespace LedgerSearch.Ledger

open LedgerSearch.Json (Value Number Literal)

/-! ### Values that hold texts only -/

theorem isText_ofOption {α : Type} {write : α → Value} (h : ∀ a, (write a).IsText) (o : Option α) :
    (Value.ofOption write o).IsText := by
  cases o with
  | none => exact .null
  | some a => exact h a

theorem isText_array_map {α : Type} {write : α → Value} (h : ∀ a, (write a).IsText) (as : List α) :
    (Value.array (as.map write)).IsText := by
  refine .array fun v hv => ?_
  obtain ⟨a, -, rfl⟩ := List.mem_map.mp hv
  exact h a

theorem isText_ofFields {fields : List (String × Value)} (h : ∀ f ∈ fields, f.2.IsText) :
    (Value.ofFields fields).IsText := by
  refine .object (fun m hm => ?_) fun m hm => ?_
  all_goals obtain ⟨f, hf, rfl⟩ := List.mem_map.mp hm
  · rfl
  · exact h f hf

/-! ### Records -/

/-- The fields of a record that is written with different keys. Other keys are left out. -/
theorem recordFields_ofFields {fields : List (String × Value)} (names : List String)
    (h : (fields.map (·.1)).Nodup) :
    recordFields names (.ofFields fields)
      = some (names.map fun name => (fields.find? (·.1 == name)).map (·.2)) := by
  have hkeys : (fields.map fun f => ((some f.1 : Literal), f.2)).any (·.1.isNone) = false := by
    simp
  have honce : names.any (fun name =>
      1 < (fields.map fun f => ((some f.1 : Literal), f.2)).countP (·.1 == some name)) = false := by
    rw [List.any_eq_false]
    intro name _
    have hcount := List.nodup_iff_count_le_one.mp h name
    rw [List.count_eq_countP, List.countP_map] at hcount
    rw [List.countP_map, decide_eq_true_eq, Nat.not_lt]
    exact hcount
  have hfind (name : String) :
      (fields.map fun f => ((some f.1 : Literal), f.2)).find? (·.1 == some name)
        = (fields.find? (·.1 == name)).map fun f => (some f.1, f.2) := by
    rw [List.find?_map]
    rfl
  rw [Value.ofFields, recordFields, hkeys, honce]
  simp [hfind, Function.comp_def]

/-! ### Fields -/

/-- Every identifier is read back. -/
theorem readId_toJson (id : Id) : readId (Id.toJson id) = some id := by
  have hlow := id.le_toInt
  have hhigh := id.toInt_lt
  have hsign : ¬((id.toInt < 0) ∧ id.toInt.natAbs = 0) := by omega
  have hvalue : (if id.toInt < 0 then -(id.toInt.natAbs : Int) else id.toInt.natAbs)
      = id.toInt := by
    split <;> omega
  show (Number.ofInt id.toInt).toInt64? = some id
  simp only [Number.ofInt, Number.toInt64?, decide_eq_true_eq]
  rw [if_pos ⟨trivial, trivial, hsign⟩, hvalue, if_pos ⟨by omega, by omega⟩, Int64.ofInt_toInt]

/-- Anything but `null` is read as a value that is there. -/
theorem readOption_of_ne_null {α : Type} {read : Value → Option α} {v : Value} (h : v ≠ .null) :
    readOption read v = (read v).map some := by
  cases v with
  | null => exact absurd rfl h
  | _ => rfl

/-- An optional value is read back. -/
theorem readOption_ofOption {α : Type} {read : Value → Option α} {write : α → Value}
    (h : ∀ a, read (write a) = some a) (hnull : ∀ a, write a ≠ .null) (o : Option α) :
    readOption read (.ofOption write o) = some o := by
  cases o with
  | none => rfl
  | some a =>
      rw [Value.ofOption, readOption_of_ne_null (hnull a), h]
      rfl

/-- A list is read item by item. -/
theorem readList_array {α β : Type} {read : Value → Option β} {write : α → Value}
    {reads : α → β → Prop} {as : List α}
    (h : ∀ a ∈ as, ∃ b, read (write a) = some b ∧ reads a b) :
    ∃ bs, readList read (.array (as.map write)) = some bs ∧ List.Forall₂ reads as bs := by
  induction as with
  | nil => exact ⟨[], rfl, .nil⟩
  | cons a as ih =>
      obtain ⟨b, hb, hab⟩ := h a List.mem_cons_self
      obtain ⟨bs, hbs, hall⟩ := ih fun a' ha' => h a' (List.mem_cons_of_mem a ha')
      refine ⟨b :: bs, ?_, .cons hab hall⟩
      rw [readList] at hbs ⊢
      rw [List.map_cons, List.mapM_cons, hb, hbs]
      rfl

/-- A list of values that are read back is read back. -/
theorem readList_array_eq {α : Type} {read : Value → Option α} {write : α → Value}
    (h : ∀ a, read (write a) = some a) (as : List α) :
    readList read (.array (as.map write)) = some as := by
  have hitems : ∀ a ∈ as, ∃ b, read (write a) = some b ∧ a = b := fun a _ => ⟨a, h a, rfl⟩
  obtain ⟨bs, hbs, hall⟩ := readList_array hitems
  rw [List.forall₂_eq_eq_eq] at hall
  rw [hbs, hall]

/-! ### Transactions -/

/-- The second transaction is what the first reads as after it has been written: it has the amount
that the written amount denotes, and everything else unchanged. -/
def ReadsAs (t t' : Transaction) : Prop :=
  (Number.ofFloat t.amount).toFloat? = some t'.amount ∧ t' = { t with amount := t'.amount }

theorem readText_text (s : String) : readText (.text s) = some s :=
  rfl

theorem readOption_text (o : Option String) : readOption readText (.ofOption .text o) = some o :=
  readOption_ofOption readText_text (fun _ => nofun) o

theorem readOption_id (o : Option Id) : readOption readId (.ofOption Id.toJson o) = some o :=
  readOption_ofOption readId_toJson (fun _ => nofun) o

/-- **A transaction is read back**, also when other fields are written behind its own. -/
theorem readTransaction_ofFields {t : Transaction} (h : t.amount.isFinite = true)
    {more : List (String × Value)} (hnodup : ((t.toFields ++ more).map (·.1)).Nodup) :
    ∃ t', readTransaction (.ofFields (t.toFields ++ more)) = some t' ∧ ReadsAs t t' := by
  obtain ⟨amount, hamount⟩ := Option.isSome_iff_exists.mp (Number.isSome_toFloat?_ofFloat h)
  have hread : readAmount (.number (.ofFloat t.amount)) = some amount := hamount
  refine ⟨{ t with amount }, ?_, hamount, rfl⟩
  rw [readTransaction, recordFields_ofFields _ hnodup]
  simp [Transaction.fieldNames, Transaction.toFields, withDefault, readId_toJson, readText_text,
    hread, readOption_text, readOption_id, readList_array_eq]

/-- What is written of a transaction holds texts only. -/
theorem isText_of_mem_toFields {t : Transaction} {f : String × Value} (h : f ∈ t.toFields) :
    f.2.IsText := by
  have hid (id : Id) : (Id.toJson id).IsText := .number _
  simp only [Transaction.toFields, List.mem_cons, List.not_mem_nil, or_false] at h
  rcases h with rfl | rfl | rfl | rfl | rfl | rfl | rfl | rfl | rfl | rfl
  · exact hid t.id
  · exact .text t.date
  · exact .number _
  · exact isText_ofOption .text t.payee
  · exact isText_ofOption .text t.counterparty
  · exact isText_ofOption .text t.description
  · exact isText_ofOption hid t.categoryId
  · exact isText_ofOption hid t.bankAccountId
  · exact isText_ofOption hid t.tripId
  · exact isText_array_map hid t.tagIds

/-! ### Amounts -/

/-- The amount of a transaction that was read is finite. -/
theorem isFinite_amount_of_readTransaction {v : Value} {t : Transaction}
    (h : readTransaction v = some t) : t.amount.isFinite = true := by
  have hread : ∀ {field : Option Value} {x : Float}, withDefault 0 readAmount field = some x →
      x.isFinite = true := by
    intro field x hx
    cases field with
    | none =>
        obtain rfl := Option.some.inj hx
        decide
    | some v =>
        cases v with
        | number n => exact Number.isFinite_of_toFloat? hx
        | _ => cases hx
  simp only [readTransaction, Option.bind_eq_bind, Option.bind_eq_some_iff] at h
  obtain ⟨fields, -, h⟩ := h
  split at h
  case h_1 =>
    simp only [Option.bind_eq_some_iff, Option.pure_def, Option.some.injEq] at h
    obtain ⟨_, -, _, -, amount, hamount, _, -, _, -, _, -, _, -, _, -, _, -, _, -, rfl⟩ := h
    exact hread hamount
  case h_2 => cases h

/-- The items of a list were read one by one. -/
theorem exists_of_mem_mapM {α : Type} {read : Value → Option α} {items : List Value} {as : List α}
    (h : items.mapM read = some as) {a : α} (ha : a ∈ as) : ∃ v, read v = some a := by
  induction items generalizing as with
  | nil =>
      obtain rfl := Option.some.inj h
      cases ha
  | cons v items ih =>
      rw [List.mapM_cons] at h
      obtain ⟨b, hb, h⟩ := Option.bind_eq_some_iff.mp h
      obtain ⟨bs, hbs, h⟩ := Option.bind_eq_some_iff.mp h
      obtain rfl := Option.some.inj h
      rcases List.mem_cons.mp ha with rfl | ha
      · exact ⟨v, hb⟩
      · exact ih hbs ha

/-- The amounts of a ledger that was read are finite. -/
theorem isFinite_amount_of_parse {text : String} {l : Ledger} (h : parse text = some l)
    {t : Transaction} (ht : t ∈ l.transactions) : t.amount.isFinite = true := by
  have hread : ∀ {field : Option Value} {ts : List Transaction},
      withDefault [] (readList readTransaction) field = some ts → t ∈ ts →
        t.amount.isFinite = true := by
    intro field ts hts ht
    cases field with
    | none =>
        obtain rfl := Option.some.inj hts
        cases ht
    | some v =>
        cases v with
        | array items =>
            obtain ⟨v, hv⟩ := exists_of_mem_mapM hts ht
            exact isFinite_amount_of_readTransaction hv
        | _ => cases hts
  obtain ⟨value, -, h⟩ := Option.bind_eq_some_iff.mp h
  simp only [ofJson, Option.bind_eq_bind, Option.bind_eq_some_iff] at h
  obtain ⟨fields, -, h⟩ := h
  split at h
  case h_1 =>
    simp only [Option.bind_eq_some_iff, Option.pure_def, Option.some.injEq] at h
    obtain ⟨ts, hts, _, -, _, -, _, -, _, -, _, -, rfl⟩ := h
    exact hread hts ht
  case h_2 => cases h

/-! ### Ledger files -/

/-- The text of a ledger file with nothing but transactions, of which the list is given. -/
def transactionsFile (list : String) : String :=
  "\x7b" ++ (Json.quote "transactions" ++ ": " ++ list) ++ "\x7d"

/-- A ledger file with nothing but transactions is read as a ledger with these. -/
theorem parse_transactionsFile {items : List Value} {ts : List Transaction}
    (hitems : (Value.array items).IsText) (hts : readList readTransaction (.array items) = some ts)
    (level : Nat) :
    parse (transactionsFile ((Value.array items).prettyAt level))
      = some { transactions := ts } := by
  have hmember : Value.object [(some "transactions", .array items)]
      = .ofFields [("transactions", .array items)] := rfl
  have htext : (Value.object [(some "transactions", .array items)]).IsText := by
    rw [hmember]
    exact isText_ofFields fun f hf => by
      obtain rfl := List.mem_singleton.mp hf
      exact hitems
  have hdelimits (rest : List Char) : Json.Delimits ("\x7d".toList ++ rest) := by
    intro c hc
    obtain rfl : '\x7d' = c := Option.some.inj hc
    decide
  have hkey : (some "transactions" : Json.Literal).isSome = true := rfl
  have hspells := Json.marks_openBrace.append
    ((Json.spells_member hkey (hitems.spells_prettyAt level)).append
      Json.marks_closeBrace.spells hdelimits)
  have htokens : Json.tokens (transactionsFile ((Value.array items).prettyAt level)).toList
      = some (Value.object [(some "transactions", .array items)]).tokens := by
    have hall := hspells [] Json.delimits_nil
    rw [List.append_nil, Json.tokens, Option.map_some, List.append_nil] at hall
    rw [transactionsFile, String.toList_append, String.toList_append, List.append_assoc]
    refine hall.trans ?_
    rw [Value.tokens_object, List.map_singleton, List.intercalate_singleton]
    rfl
  rw [parse, Json.parse_of_tokens htext htokens, Option.bind_some, hmember, ofJson,
    recordFields_ofFields _ (by simp)]
  simp [fieldNames, withDefault, hts]

end LedgerSearch.Ledger
