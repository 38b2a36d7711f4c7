import Tickscript.Load.Config
import Tickscript.Program.Reader
import Tickscript.Resource.Codec
import Tickscript.Wire.Format

/-!
# Loading a directory into a service

The task loader of section 10.8 of the specification. Task scripts come first, then templates, then
the variables of template tasks, then handlers. Each file gives one entry of the report: what was
loaded from it, or why it failed. A file that fails does not stop those after it.

What a file names is created if the service does not know it, and changed otherwise. A task that was
changed is switched off and on again, so that a running pipeline takes up the change.
-/

namespace Tickscript

/-- Whether a resource was there before. -/
inductive LoadAction where
  | created | updated
deriving Repr, DecidableEq

/-- How the action is shown. -/
def LoadAction.name : LoadAction → String
  | created => "created"
  | updated => "updated"

/-- A resource that was loaded. -/
structure Loaded where
  kind : ResourceKind
  id : String
  action : LoadAction
deriving Repr, DecidableEq

/-- How a loaded resource is shown. -/
def Loaded.describe (l : Loaded) : String :=
  l.action.name ++ " " ++ l.kind.name ++ " " ++ l.id

/-- What a load did: the resources it loaded, and the files that failed with their errors. -/
structure LoadReport where
  loaded : List Loaded := []
  failed : List (String × LoadError) := []
deriving Repr, DecidableEq

namespace LoadReport

/-- Whether no file failed. -/
def isSuccess (r : LoadReport) : Bool := r.failed.isEmpty

/-- One report after another. -/
def append (r s : LoadReport) : LoadReport := ⟨r.loaded ++ s.loaded, r.failed ++ s.failed⟩

instance : Append LoadReport := ⟨append⟩

end LoadReport

/-- A part of a load into a service with states of type `σ`. -/
abbrev Load (σ : Type) := EStateM LoadError σ

namespace Load

/-- What a load leaves to other libraries: to compile regexes and to read documents. -/
class Libraries extends Regex.Engine, Wire.Documents

variable {σ : Type}

/-- Asks the service. -/
def ask {α : Type} (r : Request σ α) : Load σ α := fun s =>
  match r s with
  | .ok a s => .ok a s
  | .error e s => .error (.service e) s

/-- Goes on with a value that may be an error. -/
def ofExcept {α : Type} : Except LoadError α → Load σ α
  | .ok a => fun s => .ok a s
  | .error e => fun s => .error e s

variable [Libraries]

/-- The script in a file, as text and as a program that can run. -/
def readScript (fs : FileSystem) (path : String) : Except LoadError (String × Program) := do
  let script ← LoadError.ofRead path (fs.readText path)
  match Program.parse script with
  | .error e => throw (.malformedScript path e)
  | .ok p =>
    if p.taskType = .invalid then throw (.invalidTaskType (Path.stem path))
    return (script, p)

/-- What a document holds. Its extension tells the format. -/
def decode {α : Type} (d : Wire.Decoder α) (path text : String) : Except LoadError α :=
  match Path.extension? path with
  | some "json" =>
    match Wire.Documents.json? d text with
    | some a => .ok a
    | none => .error (.malformedJson path)
  | some "yaml" | some "yml" =>
    match Wire.Documents.yaml? d text with
    | some a => .ok a
    | none => .error (.malformedYaml path)
  | _ => .error (.unsupportedExtension path)

/-- What the document in a file holds. -/
def readDocument {α : Type} (d : Wire.Decoder α) (fs : FileSystem) (path : String) :
    Except LoadError α := do
  decode d path (← LoadError.ofRead path (fs.readText path))

/-- Creates a task, or changes the one with its id and switches it off and on. -/
def pushTask (svc : Service σ) (t : Task) (c : TaskChange) : Load σ Loaded := do
  match ← ask (svc.task t.id) with
  | none =>
    let _ ← ask (svc.createTask t)
    return ⟨.task, t.id, .created⟩
  | some _ =>
    let _ ← ask (svc.updateTask t.id c)
    let _ ← ask (svc.updateTask t.id (.toStatus .disabled))
    let _ ← ask (svc.updateTask t.id (.toStatus .enabled))
    return ⟨.task, t.id, .updated⟩

/-- Loads a task script. The name of the file is the id of the task. -/
def taskScript (svc : Service σ) (fs : FileSystem) (path : String) : Load σ Loaded := do
  let (script, p) ← ofExcept (readScript fs path)
  pushTask svc
    { id := Path.stem path, type := some p.taskType, dbrps := p.dbrpList, script := some script,
      status := .enabled }
    { type := some p.taskType, dbrps := some p.dbrpList, script := some script }

/-- The programs of the templates that were loaded, by id. -/
abbrev Templates := List (String × Program)

/-- Loads a template script. The name of the file is the id of the template. -/
def templateScript (svc : Service σ) (fs : FileSystem) (path : String) :
    Load σ (Loaded × Program) := do
  let (script, p) ← ofExcept (readScript fs path)
  let t : Template := ⟨Path.stem path, p.taskType, script⟩
  match ← ask (svc.template t.id) with
  | none =>
    let _ ← ask (svc.createTemplate t)
    return (⟨.template, t.id, .created⟩, p)
  | some _ =>
    let _ ← ask (svc.updateTemplate t)
    return (⟨.template, t.id, .updated⟩, p)

/-- The type that a template declares for a variable. The last declaration counts. -/
def declaredType? (p : Program) (name : String) : Option VarType :=
  Wire.lookup? name p.templateVars.reverse

/-- Checks a variable of the task `id`: its type against the one that its template declares, then
its value against its type. -/
def checkVar (id : String) (template : Option Program) (name : String) (v : Var) :
    Except LoadError Unit :=
  match template.bind fun p => declaredType? p name with
  | some expected =>
    if expected ≠ v.type then .error (.varTypeMismatch id name expected v.type)
    else if v.isConsistent then .ok ()
    else .error (.invalidVarValue id name v.type)
  | none => if v.isConsistent then .ok () else .error (.invalidVarValue id name v.type)

/-- Checks variables in order, up to the first that fails. -/
def checkVars (id : String) (template : Option Program) :
    List (String × Var) → Except LoadError Unit
  | [] => .ok ()
  | (name, v) :: vs =>
    match checkVar id template name v with
    | .error e => .error e
    | .ok () => checkVars id template vs

/-- The variables in a file, checked against the template that they name, if it was loaded. -/
def readVars (fs : FileSystem) (ts : Templates) (path : String) : Except LoadError TaskVars := do
  let v ← readDocument TaskVars.decode fs path
  checkVars (Path.stem path) (Wire.lookup? v.templateId ts) v.vars
  return v

/-- Loads the variables of a task that runs a template. The name of the file is the id of the
task. -/
def taskVars (svc : Service σ) (fs : FileSystem) (ts : Templates) (path : String) :
    Load σ Loaded := do
  let v ← ofExcept (readVars fs ts path)
  let type := (Wire.lookup? v.templateId ts).map Program.taskType
  pushTask svc
    { id := Path.stem path, templateId := some v.templateId, type := type, dbrps := v.dbrps,
      status := .enabled, vars := v.vars }
    { templateId := some v.templateId, type := type, dbrps := some v.dbrps, vars := some v.vars }

/-- Loads a handler. -/
def handler (svc : Service σ) (fs : FileSystem) (path : String) : Load σ Loaded := do
  let h ← ofExcept (readDocument Handler.decode fs path)
  let id := h.topic ++ "/" ++ h.id
  match ← ask (svc.handler h.topic h.id) with
  | none =>
    let _ ← ask (svc.createHandler h)
    return ⟨.handler, id, .created⟩
  | some _ =>
    let _ ← ask (svc.replaceHandler h)
    return ⟨.handler, id, .updated⟩

/-- Loads files one after another and reports on each. -/
def each (load : String → Load σ Loaded) : List String → Load σ LoadReport
  | [] => return {}
  | path :: paths => fun s =>
    match load path s with
    | .ok l s => (do return ⟨[l], []⟩ ++ (← each load paths) : Load σ LoadReport) s
    | .error e s => (do return ⟨[], [(path, e)]⟩ ++ (← each load paths) : Load σ LoadReport) s

/-- Loads templates one after another, reports on each, and collects their programs. -/
def eachTemplate (svc : Service σ) (fs : FileSystem) (ts : Templates) :
    List String → Load σ (LoadReport × Templates)
  | [] => return ({}, ts)
  | path :: paths => fun s =>
    match templateScript svc fs path s with
    | .ok (l, p) s =>
      (do
        let (r, ts) ← eachTemplate svc fs ((l.id, p) :: ts) paths
        return (⟨[l], []⟩ ++ r, ts) : Load σ (LoadReport × Templates)) s
    | .error e s =>
      (do
        let (r, ts) ← eachTemplate svc fs ts paths
        return (⟨[], [(path, e)]⟩ ++ r, ts) : Load σ (LoadReport × Templates)) s

/-- Loads a directory. A subdirectory that cannot be listed ends the load. -/
def run (svc : Service σ) (fs : FileSystem) (c : LoadConfig) : Load σ LoadReport := do
  let tasks ← each (taskScript svc fs) (← ofExcept (c.taskFiles fs))
  let (scripts, documents) ← ofExcept (c.templateFiles fs)
  let (templates, ts) ← eachTemplate svc fs [] scripts
  let vars ← each (taskVars svc fs ts) documents
  let handlers ← each (handler svc fs) (← ofExcept (c.handlerFiles fs))
  return tasks ++ templates ++ vars ++ handlers

end Load

end Tickscript
