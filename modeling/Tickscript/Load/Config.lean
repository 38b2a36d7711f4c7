import Tickscript.Load.Error

/-!
# Load directories

The configuration of section 10.8 of the specification. A load directory holds task scripts in
`tasks`, handlers in `handlers`, and, if there is such a directory, template scripts and the
variables of tasks in `templates`. Only files directly in these directories count, by their
extension and in the order of their names.
-/

namespace Tickscript

/-- Turns a fault into an error that names the path. -/
def LoadError.ofRead {α : Type} (path : String) : Except ReadFault α → Except LoadError α
  | .ok a => .ok a
  | .error fault => .error (.unreadable path fault)

/-- The files directly in a directory that have one of the given extensions, in order. -/
def listFiles (fs : FileSystem) (dir : String) (extensions : List String) :
    Except LoadError (List String) := do
  let entries ← LoadError.ofRead dir (fs.readDir dir)
  let chosen := entries.filter fun e =>
    !e.2.isDir && (Path.splitExtension e.1).2.any extensions.contains
  let names := (chosen.map (·.1)).mergeSort fun a b => !(b < a)
  return names.map (Path.join dir)

namespace LoadConfig

/-- The extensions of scripts. -/
def scriptExtensions : List String := ["tick"]

/-- The extensions of documents. -/
def documentExtensions : List String := ["json", "yaml", "yml"]

/-- The subdirectory of task scripts. -/
def tasksDir (c : LoadConfig) : String := Path.join c.dir "tasks"

/-- The subdirectory of templates and of the variables of their tasks. -/
def templatesDir (c : LoadConfig) : String := Path.join c.dir "templates"

/-- The subdirectory of handlers. -/
def handlersDir (c : LoadConfig) : String := Path.join c.dir "handlers"

/-- The subdirectories that have to be there. -/
def neededSubdirectories : List String := ["tasks", "handlers"]

/-- Checks the directory of a configuration, if loading is switched on: it has to be an absolute
path to a directory with the needed subdirectories. -/
def validate (c : LoadConfig) (fs : FileSystem) : Except LoadError Unit := do
  if c.enabled then
    if !Path.isAbsolute c.dir then throw (.relativeDir c.dir)
    let entries ← LoadError.ofRead c.dir (fs.readDir c.dir)
    match neededSubdirectories.find? fun sub => !(Entry.find? sub entries).any Entry.isDir with
    | some sub => throw (.missingSubdirectory c.dir sub)
    | none => return ()

/-- The task scripts. -/
def taskFiles (c : LoadConfig) (fs : FileSystem) : Except LoadError (List String) :=
  listFiles fs c.tasksDir scriptExtensions

/-- The template scripts, and the documents with the variables of their tasks. -/
def templateFiles (c : LoadConfig) (fs : FileSystem) :
    Except LoadError (List String × List String) := do
  if fs.isDir c.templatesDir then
    let scripts ← listFiles fs c.templatesDir scriptExtensions
    let documents ← listFiles fs c.templatesDir documentExtensions
    return (scripts, documents)
  else return ([], [])

/-- The documents with handlers. -/
def handlerFiles (c : LoadConfig) (fs : FileSystem) : Except LoadError (List String) :=
  listFiles fs c.handlersDir documentExtensions

end LoadConfig

end Tickscript
