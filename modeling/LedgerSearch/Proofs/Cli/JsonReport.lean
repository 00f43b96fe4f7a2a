import LedgerSearch.Cli.Basic
import LedgerSearch.Proofs.Ledger.Json
import LedgerSearch.Proofs.Search.Explanation

/-!
# `LedgerSearch.Proofs.Cli.JsonReport`: what a search prints as JSON can be relied on

Another program reads the JSON of a search. `IsReport` says what it may rely on: the text is one
document, the members tell whether the words of the query were searched for and how many
transactions there are, and the text of the transactions is the list of a ledger file that gives
the found transactions back.

The names that a report adds to a transaction stand in the same object as its fields. They have
other keys (`exists_transactionToJson`), so the result is that of
`LedgerSearch.Proofs.Ledger.Json`, for all transactions at once (`Report.isReport`).

`run_search_json` is about the command. A query at fault ends it, with nothing on the standard
output, if the search is strict or the configuration asks for it. In all other cases it prints the
report of what `searchOrWords` finds.
-/

set_option autoImplicit false

namespace LedgerSearch.Cli

open LedgerSearch.Json (Value Literal)
open LedgerSearch.Ledger (Transaction ReadsAs)
open LedgerSearch.Query (ParseOptions SyntaxError)

/-- The text is one JSON document that reports transactions. -/
structure IsReport (stdout : String) (fallback : Bool) (transactions : List Transaction)
    (members : List (Literal × Value)) (items : List Value) (list : String) (found : Ledger) :
    Prop where
  /-- The text is one JSON value, an object. -/
  document : Json.parse stdout = some (.object members)
  keys_nodup : (members.map (·.1)).Nodup
  fallback_mem : (some "fallback", .bool fallback) ∈ members
  total_mem : (some "total_matches", .number (.ofNat items.length)) ∈ members
  transactions_mem : (some "transactions", .array items) ∈ members
  /-- The text of the transactions stands in it behind their key. -/
  list_part : ∃ front, stdout = front ++ (Json.quote "transactions" ++ ": " ++ list) ++ "\n\x7d\n"
  list_value : Json.parse list = some (.array items)
  /-- That text makes a ledger file. -/
  ledger_file : Ledger.parse (Ledger.transactionsFile list) = some found
  /-- The ledger file gives the transactions back, in their order. -/
  found_transactions : List.Forall₂ ReadsAs transactions found.transactions

theorem textOf_singleton (line : String) : Output.textOf [line] = line ++ "\n" :=
  String.empty_append

namespace Report

variable (r : Report)

/-- The fields of a transaction come first, and the names that are added to them have keys of their
own. -/
theorem exists_transactionToJson (t : Transaction) :
    ∃ more, r.transactionToJson t = .ofFields (t.toFields ++ more) ∧
      ((t.toFields ++ more).map (·.1)).Nodup ∧ ∀ f ∈ more, f.2.IsText := by
  have htexts (ss : List String) : (Value.array (ss.map .text)).IsText :=
    Ledger.isText_array_map Json.Value.IsText.text ss
  have hoption (o : Option String) : (Value.ofOption .text o).IsText :=
    Ledger.isText_ofOption Json.Value.IsText.text o
  rw [transactionToJson]
  cases r.explanation with
  | none =>
      refine ⟨_, by rw [List.append_nil], ?_, fun f hf => ?_⟩
      · show (Ledger.Transaction.fieldNames
          ++ ["category_path", "bank", "account", "trip", "tags"]).Nodup
        decide
      simp only [List.mem_cons, List.not_mem_nil, or_false] at hf
      rcases hf with rfl | rfl | rfl | rfl | rfl
      all_goals first | exact htexts _ | exact hoption _
  | some e =>
      refine ⟨_, by rw [List.append_assoc], ?_, fun f hf => ?_⟩
      · show (Ledger.Transaction.fieldNames
          ++ ["category_path", "bank", "account", "trip", "tags", "matched_fields"]).Nodup
        decide
      simp only [List.cons_append, List.nil_append, List.mem_cons, List.not_mem_nil, or_false] at hf
      rcases hf with rfl | rfl | rfl | rfl | rfl | rfl
      all_goals first | exact htexts _ | exact hoption _

theorem isText_transactionToJson (t : Transaction) : (r.transactionToJson t).IsText := by
  obtain ⟨more, heq, -, hmore⟩ := r.exists_transactionToJson t
  rw [heq]
  refine Ledger.isText_ofFields fun f hf => ?_
  rcases List.mem_append.mp hf with hf | hf
  · exact Ledger.isText_of_mem_toFields hf
  · exact hmore f hf

theorem isText_errorToJson (e : SyntaxError) : (errorToJson e).IsText := by
  refine Ledger.isText_ofFields fun f hf => ?_
  simp only [List.mem_cons, List.not_mem_nil, or_false] at hf
  rcases hf with rfl | rfl | rfl | rfl
  · exact .text _
  · exact .number _
  · exact .text _
  · exact Ledger.isText_ofOption .text _

/-- All that a report holds is text. -/
theorem isText_toJson : r.toJson.IsText := by
  refine Ledger.isText_ofFields fun f hf => ?_
  simp only [List.mem_cons, List.not_mem_nil, or_false] at hf
  rcases hf with rfl | rfl | rfl | rfl | rfl
  · exact .text _
  · exact .bool _
  · exact Ledger.isText_ofOption isText_errorToJson _
  · exact .number _
  · exact Ledger.isText_array_map r.isText_transactionToJson _

/-- The transactions of the report, written. -/
def items : List Value :=
  r.outcome.transactions.map r.transactionToJson

/-- The text of the transactions, as it stands in the report. -/
def itemsText : String :=
  (Value.array r.items).prettyAt 1

/-- The transactions come last in the report. -/
theorem exists_pretty : ∃ front, Output.textOf [r.toJson.pretty]
    = front ++ (Json.quote "transactions" ++ ": " ++ r.itemsText) ++ "\n\x7d\n" := by
  have hbehind : Json.lineBreak 0 ++ "\x7d" ++ "\n" = "\n\x7d\n" := rfl
  obtain ⟨a, b, c, d, hmembers⟩ : ∃ a b c d, r.toJson.pretty = Json.layOut "\x7b" "\x7d" 0
      [a, b, c, d, Json.quote "transactions" ++ ": " ++ r.itemsText] := ⟨_, _, _, _, rfl⟩
  let next := "," ++ Json.lineBreak 1
  refine ⟨"\x7b" ++ Json.lineBreak 1 ++ (a ++ next ++ b ++ next ++ c ++ next ++ d ++ next), ?_⟩
  rw [textOf_singleton, hmembers, ← hbehind]
  show "\x7b" ++ Json.lineBreak 1 ++ (a ++ next ++ b ++ next ++ c ++ next ++ d ++ next
    ++ (Json.quote "transactions" ++ ": " ++ r.itemsText)) ++ Json.lineBreak 0 ++ "\x7d" ++ "\n" = _
  simp only [String.append_assoc]

/-- **A report can be relied on**, if the amounts are finite. -/
theorem isReport (h : ∀ t ∈ r.outcome.transactions, t.amount.isFinite = true) :
    ∃ members items list found, IsReport (Output.textOf [r.toJson.pretty]) r.outcome.isFallback
      r.outcome.transactions members items list found := by
  have hitems : (Value.array r.items).IsText :=
    Ledger.isText_array_map r.isText_transactionToJson _
  have hread : ∀ t ∈ r.outcome.transactions,
      ∃ t', Ledger.readTransaction (r.transactionToJson t) = some t' ∧ ReadsAs t t' := by
    intro t ht
    obtain ⟨more, heq, hnodup, -⟩ := r.exists_transactionToJson t
    rw [heq]
    exact Ledger.readTransaction_ofFields (h t ht) hnodup
  obtain ⟨ts, hts, hall⟩ := Ledger.readList_array hread
  have htotal : r.outcome.transactions.length = r.items.length := by rw [items, List.length_map]
  have hend : ∀ c ∈ "\n".toList, Json.isSpace c = true := List.forall_mem_singleton.mpr rfl
  refine ⟨[(some "query", .text r.query), (some "fallback", .bool r.outcome.isFallback),
    (some "error", .ofOption errorToJson r.outcome.syntaxError),
    (some "total_matches", .number (.ofNat r.outcome.transactions.length)),
    (some "transactions", .array r.items)], r.items, r.itemsText, { transactions := ts },
    ?document, ?keys, ?fallback, ?total, ?transactions, r.exists_pretty, ?value,
    Ledger.parse_transactionsFile hitems hts 1, hall⟩
  case document =>
    rw [textOf_singleton]
    exact r.isText_toJson.parse_prettyAt 0 hend
  case keys =>
    show [some "query", some "fallback", some "error", some "total_matches",
      some "transactions"].Nodup
    decide
  case fallback => simp
  case total => simp [htotal]
  case transactions => simp
  case value =>
    have hparse : Json.parse (r.itemsText ++ "") = some (.array r.items) :=
      hitems.parse_prettyAt 1 (by simp)
    rwa [String.append_empty] at hparse

end Report

/-! ### Searching -/

variable {l : Ledger} {query : String} {options : ParseOptions}

/-- Only a strict search refuses, and only a query at fault. All other searches are answered. -/
theorem searchWith_of_not_refused {strict : Bool}
    (h : ¬ ((∃ err, Query.parse query options = .error err) ∧ strict = true)) :
    searchWith l query options strict = .ok (Search.searchOrWords l query options) := by
  cases strict with
  | false => rfl
  | true =>
      cases hparse : Query.parse query options with
      | ok e =>
          rw [searchWith, if_pos rfl, Search.search_of_parse hparse,
            Search.searchOrWords_of_parse l hparse]
          rfl
      | error err => exact absurd ⟨⟨err, hparse⟩, rfl⟩ h

/-- A query at fault is refused by a strict search. -/
theorem searchWith_of_error {err : SyntaxError} (h : Query.parse query options = .error err) :
    searchWith l query options true = .error err := by
  rw [searchWith, if_pos rfl, Search.search, h]
  rfl

/-- A search finds transactions of the ledger. -/
theorem mem_of_mem_searchOrWords {t : Transaction}
    (h : t ∈ (Search.searchOrWords l query options).transactions) : t ∈ l.transactions := by
  cases hparse : Query.parse query options with
  | ok e =>
      rw [Search.searchOrWords_of_parse l hparse] at h
      exact List.mem_of_mem_filter h
  | error err =>
      rw [Search.searchOrWords_of_error l hparse] at h
      exact List.mem_of_mem_filter h

/-- The words of the query were searched for exactly where the query is at fault. -/
theorem isFallback_searchOrWords :
    (Search.searchOrWords l query options).isFallback = true ↔
      ∃ err, Query.parse query options = .error err := by
  cases hparse : Query.parse query options with
  | ok e =>
      rw [Search.searchOrWords_of_parse l hparse]
      exact ⟨nofun, nofun⟩
  | error err =>
      rw [Search.searchOrWords_of_error l hparse]
      exact ⟨fun _ => ⟨err, rfl⟩, fun _ => rfl⟩

/-- The ledger that is searched was read from a text. -/
theorem exists_parse_of_loadLedger {files : FileSystem} {path : FileSystem.Path}
    (h : loadLedger files path = .ok l) : ∃ text, Ledger.parse text = some l := by
  rw [loadLedger, FileSystem.load] at h
  split at h
  case h_1 => cases h
  case h_2 text _ =>
    rw [FileSystem.parseAt] at h
    split at h
    case h_1 => cases h
    case h_2 l' hparse =>
      obtain rfl := Except.ok.inj h
      exact ⟨text, hparse⟩

section
variable {env : Environment} {config : Config} {path : FileSystem.Path}
variable {asked : Option FileSystem.Path} {explicitOperators json strict verbose : Bool}

/-- What is left of a run, when configuration and ledger have been loaded. -/
theorem run_search {words : List String} (hconfig : Config.load env = .ok config)
    (hpath : ledgerPath config env.cwd asked = some path)
    (hledger : loadLedger env.files path = .ok l) :
    Invocation.run env ⟨.search words explicitOperators asked json strict, verbose⟩
      = searchLedger config l (joinWords words) explicitOperators json strict verbose := by
  rw [Invocation.run, hconfig]
  show Command.run env config verbose (.search words explicitOperators asked json strict) = _
  rw [Command.run, hpath]
  dsimp only
  rw [hledger]

/-- A query that is refused is reported as an error. -/
theorem searchLedger_of_error {err : SyntaxError}
    (h : searchWith l query (parseOptions config explicitOperators) (strict || !config.fallback)
      = .error err) :
    searchLedger config l query explicitOperators json strict verbose = .failure err.render := by
  simp only [searchLedger, h]

/-- What is found is shown in a report. -/
theorem searchLedger_of_ok {outcome : Search.Outcome}
    (h : searchWith l query (parseOptions config explicitOperators) (strict || !config.fallback)
      = .ok outcome) :
    ∃ explanation, searchLedger config l query explicitOperators json strict verbose
      = showReport ⟨query, l, outcome, explanation⟩ json :=
  ⟨_, by simp only [searchLedger, h]; rfl⟩

end

/-- **What a search prints as JSON can be relied on.** Configuration and ledger have been loaded. A
query at fault is refused where the search is strict, by its arguments or by the configuration.
Otherwise the report is printed, and it tells whether the query was at fault. -/
theorem run_search_json {env : Environment} {config : Config} {path : FileSystem.Path}
    {asked : Option FileSystem.Path} (words : List String) (explicitOperators strict verbose : Bool)
    (hconfig : Config.load env = .ok config) (hpath : ledgerPath config env.cwd asked = some path)
    (hledger : loadLedger env.files path = .ok l) :
    let query := joinWords words
    let options : ParseOptions := ⟨config.implicitAnd && !explicitOperators⟩
    let output := Invocation.run env ⟨.search words explicitOperators asked true strict, verbose⟩
    let atFault := ∃ err, Query.parse query options = .error err
    let refused := atFault ∧ (strict = true ∨ config.fallback = false)
    (refused → output.exitCode = 1 ∧ output.stdout = "") ∧
      (¬refused → output.exitCode = 0 ∧
        ∃ fallback members items list found, (fallback = true ↔ atFault) ∧
          IsReport output.stdout fallback (Search.searchOrWords l query options).transactions
            members items list found) := by
  intro query options output atFault refused
  have hrun : output = searchLedger config l query explicitOperators true strict verbose :=
    run_search hconfig hpath hledger
  have hmode : (strict || !config.fallback) = true ↔ strict = true ∨ config.fallback = false := by
    simp
  rw [hrun]
  refine ⟨?refused, fun hnot => ?answered⟩
  case refused =>
    rintro ⟨⟨err, herr⟩, hstrict⟩
    have hanswer : searchWith l query (parseOptions config explicitOperators)
        (strict || !config.fallback) = .error err := by
      rw [hmode.mpr hstrict]
      exact searchWith_of_error herr
    rw [searchLedger_of_error hanswer]
    exact ⟨rfl, rfl⟩
  case answered =>
    have hanswer : searchWith l query (parseOptions config explicitOperators)
        (strict || !config.fallback) = .ok (Search.searchOrWords l query options) :=
      searchWith_of_not_refused fun h => hnot ⟨h.1, hmode.mp h.2⟩
    obtain ⟨explanation, hshown⟩ := searchLedger_of_ok hanswer
    obtain ⟨text, htext⟩ := exists_parse_of_loadLedger hledger
    let r : Report := ⟨query, l, Search.searchOrWords l query options, explanation⟩
    obtain ⟨members, items, list, found, hreport⟩ := r.isReport fun t ht =>
      Ledger.isFinite_amount_of_parse htext (mem_of_mem_searchOrWords ht)
    rw [hshown]
    exact ⟨rfl, r.outcome.isFallback, members, items, list, found, isFallback_searchOrWords,
      hreport⟩

/-- Two transactions, the payee of the first in quotes, the second without any of its fields. -/
def quotedText : String :=
  "\x7b\"transactions\": [\x7b\"id\": 7, \"amount\": -12.5, "
    ++ "\"payee\": \"\\\"Costa\\\"\"\x7d, \x7b\x7d]\x7d"

/-- The first of the two transactions. -/
def quotedTransaction : Transaction where
  id := 7
  amount := -12.5
  payee := some "\"Costa\""

/-- A ledger file and nothing else. -/
def quotedFiles : FileSystem := fun p =>
  if p = ⟨"/ledger.json"⟩ then .file (.ok quotedText) else .unreachable .notFound

/-- A query without its second operand is refused by a strict search. Else its word is searched for,
and the first transaction is reported. -/
theorem run_search_json_quoted :
    let env : Environment := ⟨quotedFiles, ⟨"/"⟩, none⟩
    let l : Ledger := { transactions := [quotedTransaction, {}] }
    let asked : Option FileSystem.Path := some ⟨"ledger.json"⟩
    let run := fun strict =>
      Invocation.run env ⟨.search ["costa", "OR"] false asked true strict, true⟩
    Config.load env = .ok {} ∧ ledgerPath {} env.cwd asked = some ⟨"/ledger.json"⟩ ∧
      loadLedger env.files ⟨"/ledger.json"⟩ = .ok l ∧
      (run true).exitCode = 1 ∧ (run true).stdout = "" ∧ (run false).exitCode = 0 ∧
      ∃ members items list found,
        IsReport (run false).stdout true [quotedTransaction] members items list found := by
  intro env l asked run
  have hconfig : Config.load env = .ok {} := by decide
  have hpath : ledgerPath {} env.cwd asked = some ⟨"/ledger.json"⟩ := by decide
  have hvalue : Json.parse quotedText = some (.object [(some "transactions", .array
      [.object [(some "id", .number ⟨false, 7, [], none⟩),
        (some "amount", .number ⟨true, 12, [5], none⟩), (some "payee", .text "\"Costa\"")],
        .object []])]) := by cbv
  have hparse : Ledger.parse quotedText = some l := by
    rw [Ledger.parse, hvalue]
    decide +kernel
  have hledger : loadLedger env.files ⟨"/ledger.json"⟩ = .ok l := by
    show FileSystem.parseAt Ledger.parse _ quotedText = _
    rw [FileSystem.parseAt, hparse]
  have hlex : Query.lex "costa OR"
      = [⟨.term "costa", 0⟩, ⟨.or, 6⟩, ⟨.endOfQuery, 8⟩] := by decide +kernel
  have hfault : Query.parse "costa OR" {} = .error ⟨.unexpectedEnd "OR", "costa OR", 2, 8⟩ := by
    rw [Query.parse, hlex]
    cbv
  have hfound : (Search.searchOrWords l "costa OR" {}).transactions = [quotedTransaction] := by
    rw [Search.searchOrWords_of_error l hfault]
    decide +kernel
  let words := ["costa", "OR"]
  obtain ⟨hrefuse, -⟩ := run_search_json words false true true hconfig hpath hledger
  obtain ⟨-, hreport⟩ := run_search_json words false false true hconfig hpath hledger
  obtain ⟨hcode, hstdout⟩ := hrefuse ⟨⟨_, hfault⟩, .inl rfl⟩
  obtain ⟨hcode', fallback, members, items, list, found, hfallback, hreport⟩ :=
    hreport fun h => by simp at h
  obtain rfl : fallback = true := hfallback.mpr ⟨_, hfault⟩
  refine ⟨hconfig, hpath, hledger, hcode, hstdout, hcode', members, items, list, found, ?_⟩
  rw [← hfound]
  exact hreport

end LedgerSearch.Cli
