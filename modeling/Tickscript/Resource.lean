import Tickscript.Dbrp
import Tickscript.Program.Summary
import Tickscript.Wire.Value

/-!
# Resources of the task-management service

The resources of section 10.8 of the specification. A *task* runs a script, either its own or that
of a *template* whose open variables it fills in. A *handler* acts on the alerts of a topic. Maps
are lists of entries in increasing order of keys.
-/

namespace Tickscript

/-- Whether a task runs. -/
inductive Status where
  | enabled | disabled
deriving Repr, DecidableEq

namespace Status

/-- How the status is written. -/
def name : Status → String
  | enabled => "enabled"
  | disabled => "disabled"

/-- The status with a given name. -/
def ofName? (name : String) : Option Status :=
  match name with
  | "enabled" => some enabled
  | "disabled" => some disabled
  | _ => none

/-- A status is found again by its name. -/
theorem ofName?_name (s : Status) : ofName? s.name = some s := by
  cases s <;> rfl

end Status

/-- The value of a template variable, with the type that it is meant to have. -/
structure Var where
  type : VarType
  value : Wire.Value
  description : String := ""

namespace Var

/-- Whether a value has the shape that a type asks for. A whole number has to fit in 64 bits with
its sign; any number will do for a floating-point variable, and anything at all for a star. -/
def fits : VarType → Wire.Value → Bool
  | .int, .int n => n < Int.pow 2 63
  | .float, .int _ => true
  | .float, .float _ => true
  | .bool, .bool _ => true
  | .string, .string _ => true
  | .duration, .string _ => true
  | .lambda, .string _ => true
  | .regex, .string _ => true
  | .list, .array _ => true
  | .star, _ => true
  | _, _ => false

/-- Whether the value has the shape that its type asks for. -/
def isConsistent (v : Var) : Bool := fits v.type v.value

end Var

/-- A task that runs a template: which one, on which databases, with which variables. -/
structure TaskVars where
  templateId : String
  dbrps : List Dbrp := []
  vars : List (String × Var) := []

/-- A task. -/
structure Task where
  id : String
  templateId : Option String := none
  type : Option TaskType := none
  dbrps : List Dbrp := []
  script : Option String := none
  status : Status
  vars : List (String × Var) := []

/-- A change of a task. What is `none` stays as it is. -/
structure TaskChange where
  templateId : Option String := none
  type : Option TaskType := none
  dbrps : Option (List Dbrp) := none
  script : Option String := none
  status : Option Status := none
  vars : Option (List (String × Var)) := none

namespace TaskChange

/-- The change that only switches a task on or off. -/
def toStatus (s : Status) : TaskChange := { status := some s }

/-- The task after a change. -/
def apply (c : TaskChange) (t : Task) : Task where
  id := t.id
  templateId := c.templateId.or t.templateId
  type := c.type.or t.type
  dbrps := c.dbrps.getD t.dbrps
  script := c.script.or t.script
  status := c.status.getD t.status
  vars := c.vars.getD t.vars

end TaskChange

/-- A template: a script with open variables. -/
structure Template where
  id : String
  type : TaskType
  script : String
deriving Repr, DecidableEq

/-- A handler of the alerts on a topic. -/
structure Handler where
  topic : String
  id : String
  kind : String
  matching : String := ""
  options : List (String × Wire.Value) := []

/-- Where resources are loaded from, if loading is switched on. -/
structure LoadConfig where
  enabled : Bool := false
  dir : String := ""
deriving Repr, DecidableEq

end Tickscript
