import LedgerSearch.Cli.Basic

/-!
# `LedgerSearch.Main`: the command line

The outer layer: it looks at the surroundings, hands them to `Invocation.run` and prints the output.
Of the files it reads those that may be configuration files first, and then the ledger that they or
the arguments name.
-/

set_option autoImplicit false

namespace LedgerSearch.Cli

open FileSystem (Entry Fault)

/-- The number that comes with an error. -/
def codeOf : IO.Error → Option UInt32
  | .alreadyExists _ code _ | .otherError code _ | .resourceBusy code _
  | .resourceVanished code _ | .unsupportedOperation code _ | .hardwareFault code _
  | .unsatisfiedConstraints code _ | .illegalOperation code _ | .protocolError code _
  | .timeExpired code _ | .interrupted _ code _ | .noFileOrDirectory _ code _
  | .invalidArgument _ code _ | .permissionDenied _ code _ | .resourceExhausted _ code _
  | .inappropriateType _ code _ | .noSuchThing _ code _ => some code
  | .unexpectedEof | .userError _ => none

/-- The number by which the system knows an error. Some calls report it negated. -/
def systemCode (e : IO.Error) : Option UInt32 :=
  (codeOf e).map fun code => if code < 0x80000000 then code else 0 - code

/-- The fault that an error of the system is. -/
def faultOf (e : IO.Error) : Fault :=
  match systemCode e with
  | some 2 => .notFound
  | some 13 => .denied
  | some 20 => .notADirectory
  | some 21 => .isADirectory
  | some 36 => .nameTooLong
  | _ => .other e.toString

/-- A regular file stands at a path that the way leads to, whether or not it can be read. -/
def isRegular (p : FileSystem.Path) : IO Bool := do
  try
    return (← (← IO.FS.realPath p.text).metadata).type == .file
  catch _ =>
    return false

/-- What stands at a path. -/
def entryAt (p : FileSystem.Path) : IO Entry := do
  if p.text.toList.contains '\x00' then return .unreachable .nulInPath
  try
    return .file (FileSystem.decoded (String.fromUTF8? (← IO.FS.readBinFile p.text)))
  catch e =>
    match faultOf e with
    | .isADirectory => return .directory
    | fault => return if ← isRegular p then .file (.error fault) else .unreachable fault

/-- What stands at each of the paths. -/
def entriesAt (paths : List FileSystem.Path) : IO (List (FileSystem.Path × Entry)) :=
  paths.mapM fun p => return (p, ← entryAt p)

/-- The file system as far as it has been looked at. -/
def seen (entries : List (FileSystem.Path × Entry)) : FileSystem := fun p =>
  ((entries.find? (·.1 = p)).map (·.2)).getD (.unreachable .notFound)

/-- Prints an output; its exit code is the result. -/
def emit (o : Output) : IO UInt32 := do
  IO.print o.stdout
  IO.eprint o.stderr
  return o.exitCode.toUInt32

/-- Carries out a command line in the surroundings of the process. -/
def runIn (invocation : Invocation) (cwd : FileSystem.Path) : IO Output := do
  let home := ((← IO.getEnv "HOME").filter (!·.isEmpty)).map FileSystem.Path.mk
  let entries ← entriesAt (Config.candidates cwd ++ (Config.globalFile home).toList)
  let ledger := invocation.ledgerPath? ⟨seen entries, cwd, home⟩
  let more ← entriesAt ledger.toList
  return invocation.run ⟨seen (entries ++ more), cwd, home⟩

/-- Carries out what the arguments ask for; the exit code is the result. -/
def execute (args : List String) : IO UInt32 := do
  match parseArguments args with
  | .error refusal => emit (refuse refusal)
  | .ok invocation =>
    let here ← try pure (Except.ok (← IO.currentDir)) catch e => pure (Except.error (faultOf e))
    match here with
    | .error fault => emit (unknownDirectory fault)
    | .ok directory => emit (← runIn invocation ⟨directory.toString⟩)

end LedgerSearch.Cli

/-- The program. -/
def main (args : List String) : IO UInt32 :=
  LedgerSearch.Cli.execute args
