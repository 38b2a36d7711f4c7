import Tickscript.Service

/-!
# A service that refuses requests

A remote service (section 6 of the specification) may answer any request with an error. Here a guard
stands in front of a service and turns requests away, by whatever rule it likes: the rule sees which
operations have been asked for before. A request that is turned away does not reach the service.
-/

namespace Tickscript

/-- The operations of a service. -/
inductive Operation where
  | task | createTask | updateTask
  | template | createTemplate | updateTemplate
  | handler | createHandler | replaceHandler
deriving Repr, DecidableEq

/-- Why a guard turns an operation away, if it does, given the operations asked for before, the
latest first. -/
abbrev Guard := List Operation → Operation → Option String

/-- A service's state behind a guard, with the operations asked for so far, the latest first. -/
structure Guarded (σ : Type) where
  inner : σ
  asked : List Operation := []

namespace Guarded

/-- Passes a request on, unless the guard turns it away. -/
def pass {σ α : Type} (guard : Guard) (op : Operation) (r : Request σ α) :
    Request (Guarded σ) α := fun s =>
  let asked := op :: s.asked
  match guard s.asked op with
  | some reason => .error (.refused reason) ⟨s.inner, asked⟩
  | none =>
    match r s.inner with
    | .ok a t => .ok a ⟨t, asked⟩
    | .error e t => .error e ⟨t, asked⟩

/-- A service behind a guard. -/
def service {σ : Type} (guard : Guard) (svc : Service σ) : Service (Guarded σ) where
  task := fun id => pass guard .task (svc.task id)
  createTask := fun t => pass guard .createTask (svc.createTask t)
  updateTask := fun id c => pass guard .updateTask (svc.updateTask id c)
  template := fun id => pass guard .template (svc.template id)
  createTemplate := fun t => pass guard .createTemplate (svc.createTemplate t)
  updateTemplate := fun t => pass guard .updateTemplate (svc.updateTemplate t)
  handler := fun topic id => pass guard .handler (svc.handler topic id)
  createHandler := fun h => pass guard .createHandler (svc.createHandler h)
  replaceHandler := fun h => pass guard .replaceHandler (svc.replaceHandler h)

end Guarded

end Tickscript
