import Tickscript.Load.Libraries
import Tickscript.Program.Printer
import Tickscript.Service.Store

/-!
# The command line

The three commands of section 10.10 of the specification: `check` tells what a script does, `fmt`
writes it in the conventional layout, and `load` shows what loading a directory into an empty
service would do. What a run prints and the code it ends with are a function of its arguments, its
input and the files it can see.

The commands leave open what compiles regexes and what reads documents. The program runs them with
`Load.libraries`.
-/

namespace Tickscript

/-- What a run is asked to do. A script without a file comes from the input. -/
inductive Command where
  | check (file : Option String) (json : Bool)
  | fmt (file : Option String)
  | load (dir : String)
deriving Repr, DecidableEq

/-- What a run prints, and the code it ends with. -/
structure Outcome where
  code : Nat
  stdout : String := ""
  stderr : String := ""
deriving Repr, DecidableEq

/-- Why a command fails. -/
inductive CommandError where
  | parse (cause : SyntaxError)
  | load (cause : LoadError)
  | read (fault : ReadFault)
deriving Repr, DecidableEq

/-- The wording of an error. -/
def CommandError.message : CommandError → String
  | parse cause => "Parse error: " ++ cause.message
  | load cause => "Load error: " ++ cause.message
  | read fault => "IO error: " ++ fault.message

namespace Command

/-! ## Arguments -/

/-- An argument: an option by its letter or its name, the latter perhaps with a value, or a word
of its own. -/
inductive Arg where
  | letters (cs : List Char)
  | option (name : String) (value : Option String)
  | word (s : String)
deriving Repr, DecidableEq

/-- Tells what an argument is. A dash alone is a word. -/
def Arg.of (s : String) : Arg :=
  match s.toList with
  | '-' :: '-' :: cs =>
    let name := String.ofList (cs.takeWhile (· ≠ '='))
    match cs.dropWhile (· ≠ '=') with
    | [] => option name none
    | _ :: value => option name (some (String.ofList value))
  | '-' :: c :: cs => letters (c :: cs)
  | _ => word s

/-- Collects a file and the switch `json`, if the command has it. Each may be given once. Behind
two dashes there are only words. -/
def scriptArgs (hasJson : Bool) (file : Option String) (json : Bool) :
    List String → Option (Option String × Bool)
  | [] => some (file, json)
  | a :: as =>
    match Arg.of a with
    | .option "json" none =>
      if hasJson && !json then scriptArgs hasJson file true as else none
    | .option "" none =>
      match file, as with
      | _, [] => some (file, json)
      | none, [a] => if a = "" then none else some (some a, json)
      | _, _ => none
    | .word s =>
      if file.isNone && s ≠ "" then scriptArgs hasJson (some s) json as else none
    | _ => none

/-- A directory, if it is a path at all. -/
def dirArg (s : String) (rest : List String) : Option String :=
  if s = "" ∨ (rest ≠ [] ∧ rest ≠ ["--"]) then none else some s

/-- The directory that the arguments of `load` name. -/
def loadArgs : List String → Option String
  | [] => none
  | a :: as =>
    match Arg.of a, as with
    | .option "dir" (some dir), rest => dirArg dir rest
    | .letters ('d' :: c :: cs), rest =>
      let value := if c = '=' then cs else c :: cs
      dirArg (String.ofList value) rest
    | .option "dir" none, dir :: rest | .letters ['d'], dir :: rest =>
      match Arg.of dir with
      | .word dir => dirArg dir rest
      | _ => none
    | _, _ => none

/-- The command that arguments ask for, if they ask for one. -/
def ofArgs : List String → Option Command
  | "check" :: as => (scriptArgs true none false as).map fun (file, json) => check file json
  | "fmt" :: as => (scriptArgs false none false as).map fun (file, _) => fmt file
  | "load" :: as => (loadArgs as).map load
  | _ => none

/-! ## Commands -/

section Scripts

variable [Regex.Engine]

/-- The program of a source. -/
def parseSource (source : String) : Except CommandError Program :=
  match Program.parse source with
  | .ok p => .ok p
  | .error e => .error (.parse e)

/-- The summary of a script, for people or as JSON. -/
def checkSource (json : Bool) (source : String) : Except CommandError String := do
  let summary := Summary.of (← parseSource source)
  return if json then summary.encode.pretty 0 else summary.render

/-- A script in the conventional layout. -/
def formatSource (source : String) : Except CommandError String := do
  return (← parseSource source).format

end Scripts

section Commands

variable [Load.Libraries]

/-- What loading a directory into an empty service would do, and the calls it would make. -/
def dryRun (fs : FileSystem) (dir : String) :
    Except CommandError (LoadReport × List StoreCall) :=
  let config : LoadConfig := ⟨true, Path.join fs.current dir⟩
  match config.validate fs with
  | .error e => .error (.load e)
  | .ok () =>
    match Load.run Store.service fs config .empty with
    | .ok report store => .ok (report, store.calls)
    | .error e _ => .error (.load e)

/-- The script that a command works on. -/
def source (fs : FileSystem) (input : ByteArray) (file : Option String) :
    Except CommandError String :=
  let text :=
    match file with
    | some path => fs.readText path
    | none => FileSystem.decodeText input
  match text with
  | .ok s => .ok s
  | .error fault => .error (.read fault)

/-- What a failed command prints. -/
def failure (e : CommandError) : Outcome := { code := 1, stderr := e.message ++ "\n" }

/-- What a dry run prints: the calls, and the files that failed. -/
def showLoad (report : LoadReport) (calls : List StoreCall) : Outcome where
  code := if report.isSuccess then 0 else 1
  stdout := String.join (calls.map fun c => c.describe ++ "\n")
  stderr := String.join (report.failed.map fun f => f.1 ++ ": " ++ f.2.message ++ "\n")

/-- Runs a command. -/
def run (fs : FileSystem) (input : ByteArray) : Command → Outcome
  | check file json =>
    match source fs input file >>= checkSource json with
    | .ok text => { code := 0, stdout := text ++ "\n" }
    | .error e => failure e
  | fmt file =>
    match source fs input file >>= formatSource with
    | .ok text => { code := 0, stdout := text }
    | .error e => failure e
  | load dir =>
    match dryRun fs dir with
    | .ok (report, calls) => showLoad report calls
    | .error e => failure e

/-- How the commands are called. -/
def usage : String :=
  "Usage: tick check [FILE] [--json]\n       tick fmt [FILE]\n       tick load --dir DIR\n"

/-- Runs the command that arguments ask for. -/
def runArgs (fs : FileSystem) (input : ByteArray) (args : List String) : Outcome :=
  match ofArgs args with
  | some c => c.run fs input
  | none => { code := 2, stderr := usage }

end Commands

end Command

-- What the commands run with.
attribute [instance] Load.libraries

end Tickscript
