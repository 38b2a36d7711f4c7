import Tickscript.Service

/-!
# A service in memory

The in-process service of section 10.8 of the specification, which records every call. The store
keeps every resource, in the order of creation, and a log of the calls that changed something. A
call that fails leaves the store as it was, log included. With an empty store it serves to find out
what a load would do.
-/

namespace Tickscript

/-- A call that changed a store. An update of a task notes the status that it set. -/
inductive StoreCall where
  | createTask (id : String)
  | updateTask (id : String) (status : Option Status)
  | createTemplate (id : String)
  | updateTemplate (id : String)
  | createHandler (topic id : String)
  | replaceHandler (topic id : String)
deriving Repr, DecidableEq

/-- How a call is shown. -/
def StoreCall.describe : StoreCall → String
  | createTask id => "create task " ++ id
  | updateTask id none => "update task " ++ id
  | updateTask id (some .enabled) => "enable task " ++ id
  | updateTask id (some .disabled) => "disable task " ++ id
  | createTemplate id => "create template " ++ id
  | updateTemplate id => "update template " ++ id
  | createHandler topic id => "create handler " ++ id ++ " on topic " ++ topic
  | replaceHandler topic id => "replace handler " ++ id ++ " on topic " ++ topic

/-- Tasks, templates and handlers in order of creation, and the calls so far. -/
structure Store where
  tasks : List Task := []
  templates : List Template := []
  handlers : List Handler := []
  calls : List StoreCall := []

namespace Store

/-- A store with nothing in it. -/
def empty : Store := {}

/-- The task with an id. -/
def findTask? (s : Store) (id : String) : Option Task := s.tasks.find? fun t => t.id == id

/-- The template with an id. -/
def findTemplate? (s : Store) (id : String) : Option Template :=
  s.templates.find? fun t => t.id == id

/-- The handler with an id on a topic. -/
def findHandler? (s : Store) (topic id : String) : Option Handler :=
  s.handlers.find? fun h => h.topic == topic && h.id == id

/-- The tasks in increasing order of their ids. -/
def tasksById (s : Store) : List Task := s.tasks.mergeSort fun a b => !(b.id < a.id)

/-- Adds a task. -/
def createTask (t : Task) : Request Store Task := fun s =>
  match s.findTask? t.id with
  | some _ => .error (.alreadyExists .task t.id) s
  | none => .ok t { s with tasks := s.tasks ++ [t], calls := s.calls ++ [.createTask t.id] }

/-- Changes a task. -/
def updateTask (id : String) (c : TaskChange) : Request Store Task := fun s =>
  match s.findTask? id with
  | none => .error (.notFound .task id) s
  | some t =>
    .ok (c.apply t)
      { s with
        tasks := s.tasks.map fun u => if u.id == id then c.apply u else u
        calls := s.calls ++ [.updateTask id c.status] }

/-- Adds a template. -/
def createTemplate (t : Template) : Request Store Template := fun s =>
  match s.findTemplate? t.id with
  | some _ => .error (.alreadyExists .template t.id) s
  | none =>
    .ok t { s with templates := s.templates ++ [t], calls := s.calls ++ [.createTemplate t.id] }

/-- Replaces a template. -/
def updateTemplate (t : Template) : Request Store Template := fun s =>
  match s.findTemplate? t.id with
  | none => .error (.notFound .template t.id) s
  | some _ =>
    .ok t
      { s with
        templates := s.templates.map fun u => if u.id == t.id then t else u
        calls := s.calls ++ [.updateTemplate t.id] }

/-- Adds a handler. -/
def createHandler (h : Handler) : Request Store Handler := fun s =>
  match s.findHandler? h.topic h.id with
  | some _ => .error (.alreadyExists .handler h.id) s
  | none =>
    .ok h
      { s with handlers := s.handlers ++ [h], calls := s.calls ++ [.createHandler h.topic h.id] }

/-- Replaces a handler. -/
def replaceHandler (h : Handler) : Request Store Handler := fun s =>
  match s.findHandler? h.topic h.id with
  | none => .error (.notFound .handler h.id) s
  | some _ =>
    .ok h
      { s with
        handlers := s.handlers.map fun g => if g.topic == h.topic && g.id == h.id then h else g
        calls := s.calls ++ [.replaceHandler h.topic h.id] }

/-- The store as a service. -/
def service : Service Store where
  task := fun id s => .ok (s.findTask? id) s
  createTask := createTask
  updateTask := updateTask
  template := fun id s => .ok (s.findTemplate? id) s
  createTemplate := createTemplate
  updateTemplate := updateTemplate
  handler := fun topic id s => .ok (s.findHandler? topic id) s
  createHandler := createHandler
  replaceHandler := replaceHandler

end Store

end Tickscript
