import Tickscript.Resource

/-!
# The task-management service

What a loader needs of a service that keeps tasks, templates and handlers: the client of section
10.8 of the specification. A service is any record of these operations over a state of its own, so
that whatever is proved of a loader holds for all services. A lookup of something that is not there
is no error. An operation that fails may still change the state.
-/

namespace Tickscript

/-- The kinds of resources that a service keeps. -/
inductive ResourceKind where
  | task | template | handler
deriving Repr, DecidableEq

/-- How the kind is written. -/
def ResourceKind.name : ResourceKind → String
  | task => "task"
  | template => "template"
  | handler => "handler"

/-- Why a service does not do what it is asked for. -/
inductive ServiceError where
  | notFound (kind : ResourceKind) (id : String)
  | alreadyExists (kind : ResourceKind) (id : String)
  | refused (reason : String)
deriving Repr, DecidableEq

/-- The wording of an error. -/
def ServiceError.message : ServiceError → String
  | notFound kind id => kind.name ++ " " ++ id ++ " not found"
  | alreadyExists kind id => kind.name ++ " " ++ id ++ " already exists"
  | refused reason => "task-management API error: " ++ reason

/-- A request to a service with states of type `σ`. -/
abbrev Request (σ : Type) := EStateM ServiceError σ

/-- The operations of a service. Those that change something answer with the resource as it is
after the change. -/
structure Service (σ : Type) where
  task : String → Request σ (Option Task)
  createTask : Task → Request σ Task
  updateTask : String → TaskChange → Request σ Task
  template : String → Request σ (Option Template)
  createTemplate : Template → Request σ Template
  updateTemplate : Template → Request σ Template
  handler : String → String → Request σ (Option Handler)
  createHandler : Handler → Request σ Handler
  replaceHandler : Handler → Request σ Handler

end Tickscript
