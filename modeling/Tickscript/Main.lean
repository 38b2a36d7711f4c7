import Tickscript.Command

/-!
# The program

Takes a picture of the files that a command can see, runs the command on it, and prints.
-/

namespace Tickscript

/-- The entry at a path, down to a number of levels of directories. -/
def snapshot (path : String) : Nat → IO (Option Entry)
  | 0 => return none
  | levels + 1 => do
    let here := (← IO.currentDir) / path
    if ← here.isDir then
      let entries ← here.readDir
      let inside ← entries.toList.filterMapM fun e => do
        let entry ← snapshot (Path.join path e.fileName) levels
        return entry.map fun entry => (e.fileName, entry)
      return some (.dir inside)
    else if ← here.pathExists then
      return some (.file (← IO.FS.readBinFile here))
    else return none

/-- The path whose entry a command reads. -/
def Command.path? : Command → Option String
  | check file _ => file
  | fmt file => file
  | load dir => some dir

/-- The names that lead to an absolute path, with every step up taken. -/
def names (path : String) : List String :=
  (Path.components path.toList).foldl
    (fun names c =>
      if c = [] ∨ c = ['.'] then names
      else if c = ['.', '.'] then names.dropLast
      else names ++ [String.ofList c])
    []

/-- The names up to the first file on the way along `names`, if a file stands in the way. -/
def blockingFile? (names : List String) : IO (Option (List String)) := do
  let current ← IO.currentDir
  ((List.range names.length).map names.take).findM? fun above => do
    let here := current / ("/" ++ String.intercalate "/" above)
    return (← here.pathExists) && !(← here.isDir)

/-- The files that a command can see. -/
def visibleFiles (command : Option Command) : IO FileSystem := do
  let current := (← IO.currentDir).toString
  let root := Entry.insert (.dir []) (names current) (.dir [])
  match command.bind Command.path? with
  | none => return ⟨root, current⟩
  | some path =>
    let names := names (Path.join current path)
    match ← snapshot path 3, ← blockingFile? names with
    | some entry, _ => return ⟨Entry.insert entry names root, current⟩
    | none, some above => return ⟨Entry.insert (.file .empty) above root, current⟩
    | none, none => return ⟨root, current⟩

end Tickscript

open Tickscript

/-- Runs the command that the arguments ask for. -/
def main (args : List String) : IO UInt32 := do
  let command := Command.ofArgs args
  let fs ← visibleFiles command
  let readsInput := command.any fun c => c.path?.isNone
  let input ← if readsInput then (← IO.getStdin).readBinToEnd else pure .empty
  let outcome := Command.runArgs fs input args
  IO.print outcome.stdout
  IO.eprint outcome.stderr
  return outcome.code.toUInt32
