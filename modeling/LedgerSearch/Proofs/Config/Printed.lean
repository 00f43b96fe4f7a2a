import LedgerSearch.Config.Source
import LedgerSearch.Proofs.FileSystem.Path
import LedgerSearch.Proofs.Toml.Comment
import LedgerSearch.Proofs.Toml.Quoted

/-!
# `LedgerSearch.Proofs.Config.Printed`: settings that are written out are read back

`Config.toToml` writes the settings in effect as a configuration file would set them. It is always
one: for every ledger path, whatever characters it is made of, the text is read as a file that sets
just these settings (`parse_toToml`). The words and marks of the file are the same each time, up to
the two truth values, so all that varies is the string with the path
(`LedgerSearch.Proofs.Toml.Quoted`).

Where the file is saved would matter to a relative ledger path, which is looked up from there. An
absolute one stays what it is (`merge_printed`).
-/

set_option autoImplicit false

namespace LedgerSearch.Config

open Toml (Quoted Statement Token statements tokens)

/-- What a file sets into which the settings have been written. -/
def printed (c : Config) : Sections where
  settings := some { ledger := c.ledger.map (·.text) }
  search := some { implicitAnd := some c.implicitAnd, fallback := some c.fallback }

/-! ### Tokens -/

/-- The tokens of the header of the section `[settings]` and of the line break behind it. -/
def settingsTokens : List Token :=
  [.openBracket, .bare "settings".toList, .closeBracket, .lineBreak]

/-- The tokens of the entry of the ledger and of the line break behind it. -/
def ledgerTokens (q : Quoted) : List Token :=
  [.bare "ledger".toList, .space [' '], .equals, .space [' '], .quoted q, .lineBreak]

/-- The tokens behind the section `[settings]`. -/
def searchTokens (implicitAnd fallback : Bool) : List Token :=
  [.lineBreak, .openBracket, .bare "search".toList, .closeBracket, .lineBreak,
    .bare "implicit_and".toList, .space [' '], .equals, .space [' '],
    .bare (truthText implicitAnd).toList, .lineBreak,
    .bare "fallback".toList, .space [' '], .equals, .space [' '],
    .bare (truthText fallback).toList, .lineBreak]

theorem tokens_search (implicitAnd fallback : Bool) :
    tokens ("\n[search]\nimplicit_and = ".toList ++ ((truthText implicitAnd).toList
        ++ ("\nfallback = ".toList ++ ((truthText fallback).toList ++ "\n".toList))))
      = some (searchTokens implicitAnd fallback) := by
  unfold searchTokens
  cases implicitAnd <;> cases fallback <;> cbv

theorem tokens_settings (rest : List Char) :
    tokens ("[settings]\n".toList ++ rest) = (tokens rest).map (settingsTokens ++ ·) := by
  have hwords : "[settings]\n".toList = '[' :: ("settings".toList ++ [']', '\n']) := by decide
  rw [hwords, List.cons_append, List.append_assoc, List.cons_append, List.cons_append,
    List.nil_append, Toml.tokens_mark (t := .openBracket) rfl,
    Toml.tokens_bare (by simp [Toml.isMark]) (by simp) (by decide),
    Toml.tokens_mark (t := .closeBracket) rfl, Toml.tokens_mark (t := .lineBreak) rfl]
  simp only [Option.map_map]
  rfl

theorem tokens_ledger (s : String) (rest : List Char) :
    ∃ multiline, tokens ("ledger = ".toList ++ ((Toml.quoted s).toList ++ '\n' :: rest))
      = (tokens rest).map (ledgerTokens ⟨s, multiline⟩ ++ ·) := by
  have hquote : ('\n' :: rest).head? ≠ some '"' := by simp
  have hapostrophe : ('\n' :: rest).head? ≠ some '\'' := by simp
  obtain ⟨multiline, hread⟩ := Toml.readQuoted_quoted s hquote hapostrophe
  have hquoted := Toml.tokens_quoted hread
  have hspace : ∀ c ∈ ((Toml.quoted s).toList ++ '\n' :: rest).head?, Toml.isSpace c = false := by
    obtain ⟨c, ds, hfront, rfl | rfl⟩ := Toml.readQuoted_front hread <;> simp [hfront, Toml.isSpace]
  refine ⟨multiline, ?_⟩
  have hwords : "ledger = ".toList = "ledger".toList ++ [' ', '=', ' '] := by decide
  rw [hwords, List.append_assoc, List.cons_append, List.cons_append, List.cons_append,
    List.nil_append, Toml.tokens_bare (by simp [Toml.isMark]) (by simp) (by decide),
    Toml.tokens_space (by simp [Toml.isSpace]), Toml.tokens_mark (t := .equals) rfl,
    Toml.tokens_space hspace, hquoted, Toml.tokens_mark (t := .lineBreak) rfl]
  simp only [Option.map_map]
  rfl

/-! ### Statements -/

/-- The statements that set a ledger, if any, and the two truth values. -/
def printedStatements (ledger : Option String) (implicitAnd fallback : Bool) : List Statement :=
  let entries : List Statement := ledger.toList.map fun text => .entry ["ledger"] (.string text)
  let search : List Statement :=
    [.table ["search"], .entry ["implicit_and"] (.bool implicitAnd),
      .entry ["fallback"] (.bool fallback)]
  .table ["settings"] :: (entries ++ search)

theorem readStatements_without_ledger (implicitAnd fallback : Bool) :
    Toml.readStatements (settingsTokens ++ searchTokens implicitAnd fallback)
      = some (printedStatements none implicitAnd fallback) := by
  unfold settingsTokens searchTokens
  cases implicitAnd <;> cases fallback <;> cbv

theorem readStatements_with_ledger (q : Quoted) (implicitAnd fallback : Bool) :
    Toml.readStatements (settingsTokens ++ (ledgerTokens q ++ searchTokens implicitAnd fallback))
      = some (printedStatements (some q.text) implicitAnd fallback) := by
  unfold settingsTokens ledgerTokens searchTokens
  cases implicitAnd <;> cases fallback <;> cbv

theorem statements_toToml (c : Config) :
    statements c.toToml.toList
      = some (printedStatements (c.ledger.map (·.text)) c.implicitAnd c.fallback) := by
  have hsearch := tokens_search c.implicitAnd c.fallback
  cases hledger : c.ledger with
  | none =>
      have htokens : tokens c.toToml.toList
          = some (settingsTokens ++ searchTokens c.implicitAnd c.fallback) := by
        unfold toToml
        rw [hledger]
        simp only [String.toList_append, String.toList_empty, List.append_nil, List.append_assoc]
        rw [tokens_settings, hsearch, Option.map_some]
      rw [statements, htokens, Option.bind_some, readStatements_without_ledger, Option.map_none]
  | some path =>
      obtain ⟨multiline, hentry⟩ := tokens_ledger path.text
        ("\n[search]\nimplicit_and = ".toList ++ ((truthText c.implicitAnd).toList
          ++ ("\nfallback = ".toList ++ ((truthText c.fallback).toList ++ "\n".toList))))
      have htokens : tokens c.toToml.toList = some (settingsTokens
          ++ (ledgerTokens ⟨path.text, multiline⟩ ++ searchTokens c.implicitAnd c.fallback)) := by
        have hbreak : "\n".toList = ['\n'] := by decide
        unfold toToml
        rw [hledger]
        simp only [String.toList_append, List.append_assoc]
        rw [hbreak] at hentry hsearch ⊢
        rw [tokens_settings, List.singleton_append, hentry, hsearch, Option.map_some,
          Option.map_some]
      rw [statements, htokens, Option.bind_some, readStatements_with_ledger, Option.map_some]

/-- The statements conflict in nothing, and set what they say. -/
theorem ofEntries_printedStatements (ledger : Option String) (implicitAnd fallback : Bool) :
    (Toml.assemble (printedStatements ledger implicitAnd fallback)).bind Sections.ofEntries
      = some { settings := some ⟨ledger⟩, search := some ⟨some implicitAnd, some fallback⟩ } := by
  cases ledger <;> cbv

/-- The sections of a text without an encoding mark. -/
def sectionsOf (cs : List Char) : Option Sections :=
  ((statements cs).bind Toml.assemble).bind Sections.ofEntries

theorem parse_eq_sectionsOf {text : String} {c : Char} {cs : List Char}
    (htext : text.toList = c :: cs) (hc : c ≠ '\ufeff') :
    Sections.parse text = sectionsOf text.toList := by
  have hmark : Toml.dropEncodingMark text.toList = text.toList := by
    rw [htext, Toml.dropEncodingMark]
    exact fun ds heq => hc (List.cons.inj heq).1
  rw [Sections.parse, Toml.parse_eq, hmark, sectionsOf]

theorem sectionsOf_toToml (c : Config) : sectionsOf c.toToml.toList = some (printed c) := by
  rw [sectionsOf, statements_toToml, Option.bind_some, ofEntries_printedStatements]
  rfl

/-- **Settings that are written out are read back.** Whatever characters the ledger path is made of,
and so whichever of its four forms the string with it takes, the file sets this path, or none, and
both truth values, and does not claim to be the root of the search for files. -/
theorem parse_toToml (c : Config) :
    Sections.parse c.toToml = some
      { root := none
        settings := some { ledger := c.ledger.map (·.text) }
        search := some { implicitAnd := some c.implicitAnd, fallback := some c.fallback } } := by
  -- The text starts with a bracket: there is no encoding mark to drop.
  obtain ⟨cs, hfront⟩ : ∃ cs, c.toToml.toList = '[' :: cs := by
    unfold toToml
    simp only [String.toList_append, List.append_assoc]
    exact ⟨_, rfl⟩
  rw [parse_eq_sectionsOf hfront (by decide), sectionsOf_toToml, printed]

/-- Wherever they are saved, settings with an absolute ledger path set the same. -/
theorem merge_printed (c : Config) (h : ∀ path, c.ledger = some path → path.IsAbsolute)
    (p : FileSystem.Path) :
    (merge [⟨p, printed c⟩]).ledger = c.ledger ∧
      (merge [⟨p, printed c⟩]).implicitAnd = c.implicitAnd ∧
      (merge [⟨p, printed c⟩]).fallback = c.fallback := by
  refine ⟨?_, rfl, rfl⟩
  have hmerge : (merge [⟨p, printed c⟩]).ledger
      = (c.ledger.map (·.text)).map fun text => p.directory.join ⟨text⟩ := by
    rw [merge, List.findSome?_singleton]
    rfl
  rw [hmerge]
  cases hledger : c.ledger with
  | none => rfl
  | some path => exact congrArg some ((h path hledger).join_eq p.directory)

end LedgerSearch.Config
