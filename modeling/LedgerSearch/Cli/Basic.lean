import LedgerSearch.Cli.Arguments
import LedgerSearch.Cli.Report
import LedgerSearch.Config.Load

/-!
# `LedgerSearch.Cli.Basic`: carrying out a command

A command reads the configuration first, and `search` then the ledger. All that it prints and how it
ends is a value, an `Output`, which depends on the arguments and the environment only.
-/

set_option autoImplicit false

namespace LedgerSearch.Cli

open Query (ParseOptions)

/-- What a command prints and how it ends. -/
structure Output where
  stdout : String := ""
  stderr : String := ""
  exitCode : Nat := 0
deriving DecidableEq, Repr

namespace Output

/-- Lines, each with its end. -/
def textOf (lines : List String) : String :=
  String.join (lines.map (· ++ "\n"))

/-- Nothing but an error. -/
def failure (message : String) : Output where
  stderr := textOf ["error: " ++ message]
  exitCode := 1

end Output

/-- The options under which queries are read. -/
def parseOptions (config : Config) (explicitOperators : Bool) : ParseOptions :=
  ⟨config.implicitAnd && !explicitOperators⟩

/-- The query that words make up. -/
def joinWords (words : List String) : String :=
  String.intercalate " " words

/-! ### Searching -/

/-- The ledger to search: the one that is asked for, or the configured one. -/
def ledgerPath (config : Config) (cwd : FileSystem.Path) (asked : Option FileSystem.Path) :
    Option FileSystem.Path :=
  match asked with
  | some path => some (cwd.join path)
  | none => config.ledger

/-- The ledger in the file at the path. -/
def loadLedger (files : FileSystem) (path : FileSystem.Path) : Except FileSystem.LoadError Ledger :=
  files.load Ledger.parse path

/-- What is said when no ledger is named. -/
def noLedgerMessage : String :=
  "no ledger file given\nPass --ledger <PATH>, or set \x60ledger\x60 under [settings] in "
    ++ Config.fileName ++ "."

/-- The result of a search, which fails on a malformed query when `strict`. -/
def searchWith (l : Ledger) (query : String) (options : ParseOptions) (strict : Bool) :
    Except Query.SyntaxError Search.Outcome :=
  if strict then (Search.search l query options).map (⟨·, none⟩)
  else .ok (Search.searchOrWords l query options)

/-- The lines that warn of a malformed query. -/
def fallbackWarning (e : Query.SyntaxError) : List String :=
  [Style.warning.apply ("warning: " ++ e.render),
    Style.dim.apply "Showing results of a plain word search instead; use --strict to fail."]

/-- A report as JSON or as a table. Only with a table is a malformed query warned of. -/
def showReport (r : Report) (json : Bool) : Output :=
  if json then { stdout := Output.textOf [r.toJson.pretty] }
  else
    { stdout := Output.textOf r.lines
      stderr := Output.textOf (r.outcome.syntaxError.toList.flatMap fallbackWarning) }

/-- Searches a ledger and shows the result. -/
def searchLedger (config : Config) (l : Ledger) (query : String)
    (explicitOperators json strict verbose : Bool) : Output :=
  let options := parseOptions config explicitOperators
  match searchWith l query options (strict || !config.fallback) with
  | .error e => .failure e.render
  | .ok outcome =>
    let explanation :=
      if verbose then some (Search.explanation query options outcome.isFallback) else none
    showReport ⟨query, l, outcome, explanation⟩ json

/-! ### Explaining a query -/

/-- A number in a column of three. -/
def indexText (n : Nat) : String :=
  let digits := Nat.toDigits 10 n
  String.ofList (List.replicate (3 - digits.length) ' ' ++ digits)

/-- The line of a token. -/
def tokenLine (lexeme : Query.Lexeme) (index : Nat) : String :=
  "   " ++ indexText index ++ "  " ++ lexeme.token.describe ++ " "
    ++ Style.dim.apply ("@" ++ toString lexeme.offset)

/-- The lines on the query and its tokens. -/
def tokenLines (query : String) : List String :=
  [Style.subheader.apply "Query:", "   " ++ Text.quoted query, "",
    Style.subheader.apply "Tokens:"]
    ++ (Query.lex query).zipIdx.map (fun (lexeme, index) => tokenLine lexeme index)
    ++ [""]

/-- The lines on the tree of a query. -/
def treeLines (e : Query.Expr) : List String :=
  if e.isMatchAll then [Style.dim.apply "(empty query, matches every transaction)"]
  else
    [Style.subheader.apply "Parsed AST:"] ++ (e.listingLines 0).map ("   " ++ ·)
      ++ ["", Style.subheader.apply "Canonical form:", "   " ++ e.canonical]

/-- The lines on a malformed query. -/
def faultLines (query : String) (e : Query.SyntaxError) : List String :=
  let terms := Search.wordTerms query
  ["error: " ++ e.render]
    ++ (if terms.isEmpty then []
      else ["fallback search would look for: " ++ String.intercalate ", " terms])

/-- Shows the tokens of a query, and its tree or what is wrong with it. -/
def explain (query : String) (options : ParseOptions) : Output :=
  match Query.parse query options with
  | .ok e => { stdout := Output.textOf (tokenLines query ++ treeLines e) }
  | .error e =>
    { stdout := Output.textOf (tokenLines query)
      stderr := Output.textOf (faultLines query e)
      exitCode := 1 }

/-! ### Showing the configuration -/

/-- The comment lines on where the settings come from. -/
def sourceLines (files : List FileSystem.Path) (root : Option FileSystem.Path) : List String :=
  (if files.isEmpty then ["# no config files found, showing defaults"]
    else "# config files (highest precedence first):" :: files.map fun p => "#   " ++ p.text)
    ++ root.toList.map fun p => "# config root: " ++ p.text

/-- Shows the settings in effect as a configuration file. -/
def showConfig (config : Config) (files : List FileSystem.Path) : Output where
  stdout := Output.textOf (sourceLines files config.root ++ [""]) ++ config.toToml

/-! ### Commands -/

/-- Carries out a command under a configuration. -/
def Command.run (env : Environment) (config : Config) (verbose : Bool) : Command → Output
  | .search words explicitOperators ledger json strict =>
    match ledgerPath config env.cwd ledger with
    | none => .failure noLedgerMessage
    | some path =>
      match loadLedger env.files path with
      | .error e => .failure (e.message "ledger")
      | .ok l => searchLedger config l (joinWords words) explicitOperators json strict verbose
  | .explain words explicitOperators =>
    Cli.explain (joinWords words) (parseOptions config explicitOperators)
  | .config => showConfig config (Config.discover env)

/-- Carries out a command line. -/
def Invocation.run (env : Environment) (invocation : Invocation) : Output :=
  match Config.load env with
  | .error e => .failure ("failed to load configuration: " ++ e.message "config file")
  | .ok config => invocation.command.run env config invocation.verbose

/-- The ledger file that a command line reads; none when it reads none or fails before. -/
def Invocation.ledgerPath? (env : Environment) (invocation : Invocation) : Option FileSystem.Path :=
  match invocation.command, Config.load env with
  | .search _ _ ledger _ _, .ok config => ledgerPath config env.cwd ledger
  | _, _ => none

/-- What is printed for a command line that is not carried out. -/
def refuse (r : Refusal) : Output :=
  if r = .helpRequested then { stdout := usage }
  else
    { stderr := Output.textOf ["error: " ++ r.message, ""] ++ usage
      exitCode := r.exitCode }

/-- What is printed when the current directory cannot be determined. -/
def unknownDirectory (fault : FileSystem.Fault) : Output :=
  .failure ("could not determine current directory: " ++ fault.message)

end LedgerSearch.Cli
