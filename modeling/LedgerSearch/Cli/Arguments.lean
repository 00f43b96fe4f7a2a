import LedgerSearch.FileSystem.Path

/-!
# `LedgerSearch.Cli.Arguments`: what the arguments ask for

A command line names one command with its options and words, which may be mixed. A short option may
share its dash with others, and the ledger's path follows its option in the same argument, behind
`=` or not, or in the next one. Behind `--` nothing is an option. Everywhere `-v` asks for more
detail and `-h` for help.

The path of the ledger is only taken up when the next option or word is met, or the end. So of two
faults of a command line it is not always the first that is reported.
-/

set_option autoImplicit false

namespace LedgerSearch.Cli

/-! ### Commands -/

/-- What is to be done. -/
inductive Command
  | search (words : List String) (explicitOperators : Bool) (ledger : Option FileSystem.Path)
      (json strict : Bool)
  | explain (words : List String) (explicitOperators : Bool)
  | config
deriving DecidableEq, Repr

/-- A command line that can be carried out. -/
structure Invocation where
  command : Command
  /-- More detail is wanted. -/
  verbose : Bool
deriving DecidableEq, Repr

/-- Why a command line is not carried out. -/
inductive Refusal
  | helpRequested
  /-- There are no arguments at all. -/
  | nothingGiven
  | missingCommand
  | unknownCommand
  | unknownArgument
  | missingQuery
  /-- The option needs a value. -/
  | missingValue
  /-- The option takes no value. -/
  | superfluousValue
  /-- The option may not repeat. -/
  | repeatedOption
deriving DecidableEq, Repr

/-- Help that is asked for is no error; any other refusal is an error in the command line. -/
def Refusal.exitCode : Refusal → Nat
  | helpRequested => 0
  | _ => 2

/-- A refusal in words. -/
def Refusal.message : Refusal → String
  | helpRequested => "help was asked for"
  | nothingGiven => "no arguments were given"
  | missingCommand => "a command is needed"
  | unknownCommand => "there is no such command"
  | unknownArgument => "there is no such option, or the command takes no words"
  | missingQuery => "a query is needed"
  | missingValue => "the option needs a value"
  | superfluousValue => "the option takes no value"
  | repeatedOption => "the option cannot be used more than once"

/-- The commands and their options. -/
def usage : String :=
  "Commands:\n" ++
  "  search QUERY...   show the matching transactions of a ledger\n" ++
  "  explain QUERY...  show how a query is understood\n" ++
  "  config            show the settings in effect\n" ++
  "\n" ++
  "Options:\n" ++
  "  -v, --verbose           search: name the fields that match\n" ++
  "  -l, --ledger PATH       search: the ledger file\n" ++
  "      --json              search: JSON instead of a table\n" ++
  "      --strict            search: fail on a malformed query\n" ++
  "      --no-implicit-and   search, explain: operators are needed between terms\n" ++
  "  -h, --help              show this help\n"

/-! ### Options -/

/-- An option. -/
inductive Flag
  | help | verbose | explicitOperators | ledger | json | strict
deriving DecidableEq, Repr

namespace Flag

/-- All options. -/
def all : List Flag :=
  [help, verbose, explicitOperators, ledger, json, strict]

/-- The name behind two dashes. -/
def longName : Flag → String
  | help => "help"
  | verbose => "verbose"
  | explicitOperators => "no-implicit-and"
  | ledger => "ledger"
  | json => "json"
  | strict => "strict"

/-- The letter behind one dash. -/
def letter? : Flag → Option Char
  | help => some 'h'
  | verbose => some 'v'
  | ledger => some 'l'
  | _ => none

end Flag

/-- The names of the commands. -/
inductive CommandName
  | search | explain | config
deriving DecidableEq, Repr

namespace CommandName

/-- The command with a name. -/
def ofString? : String → Option CommandName
  | "search" => some search
  | "explain" => some explain
  | "config" => some config
  | _ => none

/-- The options that the command takes. -/
def flags : CommandName → List Flag
  | search => Flag.all
  | explain => [.help, .verbose, .explicitOperators]
  | config => [.help, .verbose]

/-- The command takes a query. -/
def takesWords : CommandName → Bool
  | search | explain => true
  | config => false

end CommandName

/-- The value of an option that takes one. -/
inductive Pending
  /-- No option waits for a value. -/
  | nothing
  /-- The option has been met. -/
  | awaited
  /-- Its value has been met too. -/
  | given (value : String)
deriving DecidableEq, Repr

/-- What has been read of a command line. -/
structure Given where
  words : List String := []
  flags : List Flag := []
  ledger : Option String := none
  pending : Pending := .nothing
deriving Repr

namespace Given

/-- The path of the ledger taken up. -/
def takeLedger (g : Given) (path : String) : Except Refusal Given :=
  if g.ledger.isSome then .error .repeatedOption
  else if path.isEmpty then .error .missingValue
  else .ok { g with ledger := some path, pending := .nothing }

/-- The option that waits for its value, settled. -/
def settle (g : Given) : Except Refusal Given :=
  match g.pending with
  | .nothing => .ok g
  | .awaited => .error .missingValue
  | .given path => g.takeLedger path

/-- An option without a value. -/
def addFlag (g : Given) (flag : Flag) : Except Refusal Given := do
  let g ← g.settle
  match flag with
  | .help => .error .helpRequested
  | .ledger => return { g with pending := .awaited }
  | flag =>
    if flag ≠ .verbose ∧ g.flags.contains flag then .error .repeatedOption
    else return { g with flags := flag :: g.flags }

/-- An option with the value that is attached to it. -/
def addValue (g : Given) (flag : Flag) (value : String) : Except Refusal Given := do
  match flag with
  | .ledger => (← g.settle).takeLedger value
  | _ => .error .superfluousValue

/-- A word that is no option. -/
def addWord (g : Given) (takesWords : Bool) (word : String) : Except Refusal Given := do
  let g ← g.settle
  if takesWords then return { g with words := g.words ++ [word] } else .error .unknownArgument

/-- An argument that starts with two dashes, of which the rest is given. -/
def addLong (g : Given) (flags : List Flag) (cs : List Char) : Except Refusal Given :=
  match flags.find? (·.longName.toList = cs.takeWhile (· ≠ '=')), cs.dropWhile (· ≠ '=') with
  | none, _ => .error .unknownArgument
  | some flag, _ :: value => g.addValue flag (String.ofList value)
  | some flag, [] => g.addFlag flag

/-- An argument that starts with one dash, of which the rest is given. -/
def addShort (g : Given) (flags : List Flag) : List Char → Except Refusal Given
  | [] => .ok g
  | c :: cs =>
    match flags.find? (·.letter? = some c), cs with
    | none, _ => .error .unknownArgument
    | some .ledger, '=' :: value => g.addValue .ledger (String.ofList value)
    | some .ledger, value@(_ :: _) => g.addValue .ledger (String.ofList value)
    | some flag, cs => do (← g.addFlag flag).addShort flags cs

/-- An argument in front of `--`. -/
def add (g : Given) (flags : List Flag) (takesWords : Bool) (arg : String) :
    Except Refusal Given :=
  match arg.toList, g.pending with
  | '-' :: '-' :: cs, _ => g.addLong flags cs
  | '-' :: c :: cs, _ => g.addShort flags (c :: cs)
  | _, .awaited => .ok { g with pending := .given arg }
  | _, _ => g.addWord takesWords arg

/-- The arguments of a command. -/
def addAll (g : Given) (flags : List Flag) (takesWords : Bool) :
    List String → Except Refusal Given
  | [] => g.settle
  | "--" :: args => do (← args.foldlM (·.addWord takesWords) g).settle
  | arg :: args => do (← g.add flags takesWords arg).addAll flags takesWords args

end Given

/-! ### Command lines -/

/-- The command with the given arguments. -/
def parseCommand (name : CommandName) (verbose : Bool) (args : List String) :
    Except Refusal Invocation := do
  let g ← ({} : Given).addAll name.flags name.takesWords args
  if name.takesWords ∧ g.words = [] then .error .missingQuery
  else
    let given := g.flags.contains
    let command :=
      match name with
      | .search =>
        .search g.words (given .explicitOperators) (g.ledger.map FileSystem.Path.mk) (given .json)
          (given .strict)
      | .explain => .explain g.words (given .explicitOperators)
      | .config => .config
    return ⟨command, verbose || given .verbose⟩

/-- The name is that of a command, `help` included. -/
def isCommandName (arg : String) : Bool :=
  arg = "help" || (CommandName.ofString? arg).isSome

/-- The refusal of a command line that asks for help on the given topics. -/
def helpOn : List String → Refusal
  | [] => .helpRequested
  | [topic] => if isCommandName topic then .helpRequested else .unknownCommand
  | _ => .unknownCommand

/-- The command line behind the options in front of the command, which were `g`. -/
def parseFrom (g : Given) : List String → Except Refusal Invocation
  | [] => .error (if g.flags = [] then .nothingGiven else .missingCommand)
  | arg :: args =>
    if arg = "help" then .error (helpOn args)
    else
      match CommandName.ofString? arg with
      | some name => parseCommand name (g.flags.contains .verbose) args
      | none =>
        if arg = "--" then
          match args with
          | [] => .error (if g.flags = [] then .nothingGiven else .missingCommand)
          | word :: _ =>
            .error (if isCommandName word then .unknownArgument else .unknownCommand)
        else
          match arg.toList with
          | '-' :: _ :: _ => do parseFrom (← g.add [.help, .verbose] false arg) args
          | _ => .error .unknownCommand

/-- What the arguments ask for. -/
def parseArguments (args : List String) : Except Refusal Invocation :=
  parseFrom {} args

end LedgerSearch.Cli
