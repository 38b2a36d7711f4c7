import Tickscript.Dbrp
import Tickscript.Program
import Tickscript.Wire.Pretty

/-!
# What a program does

The program analyzer of sections 4.5 and 10.5 of the specification. A program reads streams of
points, or batches of them, or both, or neither. Only one that does exactly one of the two can run
as a task.
-/

namespace Tickscript

/-- Where points come from. -/
inductive SourceKind where
  | stream | batch
deriving Repr, DecidableEq

/-- The source that a name stands for. -/
def SourceKind.ofName? (name : String) : Option SourceKind :=
  match name with
  | "stream" => some stream
  | "batch" => some batch
  | _ => none

/-- How a program can run. -/
inductive TaskType where
  | stream | batch | invalid
deriving Repr, DecidableEq

namespace TaskType

/-- How the type is written. -/
def name : TaskType → String
  | stream => "stream"
  | batch => "batch"
  | invalid => "invalid"

/-- The type with a given name. -/
def ofName? (name : String) : Option TaskType :=
  match name with
  | "stream" => some stream
  | "batch" => some batch
  | "invalid" => some invalid
  | _ => none

/-- A type is found again by its name. -/
theorem ofName?_name (t : TaskType) : ofName? t.name = some t := by
  cases t <;> rfl

end TaskType

/-- The source that an expression reads from, if it is a chain on one. -/
def Expr.source? : Expr → Option SourceKind
  | chain _ source _ => SourceKind.ofName? source.name
  | _ => none

/-- The source that a statement reads from. What is nested deeper does not count. -/
def Statement.source? : Statement → Option SourceKind
  | declare _ _ (.value e) => e.source?
  | declare _ _ (.template _) => none
  | expr e => e.source?

/-- The name and type that a statement leaves open. -/
def Statement.templateVar? : Statement → Option (String × VarType)
  | declare _ name (.template type) => some (name.name, type)
  | _ => none

namespace Program

/-- The databases and retention policies of a program, in the order of its lines. -/
def dbrpList (p : Program) : List Dbrp :=
  p.dbrps.map fun d => ⟨d.database, d.retentionPolicy⟩

/-- Whether some statement reads from a source of this kind. -/
def readsFrom (p : Program) (k : SourceKind) : Bool :=
  p.statements.any fun s => s.source? == some k

/-- The kinds of sources that a program reads from, each once. -/
def sources (p : Program) : List SourceKind :=
  [SourceKind.stream, .batch].filter p.readsFrom

/-- How a program can run. -/
def taskType (p : Program) : TaskType :=
  match p.readsFrom .stream, p.readsFrom .batch with
  | true, false => .stream
  | false, true => .batch
  | _, _ => .invalid

/-- The variables that a program leaves open, in order of declaration. -/
def templateVars (p : Program) : List (String × VarType) :=
  p.statements.filterMap Statement.templateVar?

end Program

/-- What a check of a program reports. -/
structure Summary where
  taskType : TaskType
  dbrps : List Dbrp
  statements : Nat
  templateVars : List (String × VarType)
deriving Repr, DecidableEq

namespace Summary

/-- The summary of a program. -/
def of (p : Program) : Summary :=
  ⟨p.taskType, p.dbrpList, p.statements.length, p.templateVars⟩

/-- A summary for people, a fact a line, the last line without its end. -/
def render (s : Summary) : String :=
  "type: " ++ s.taskType.name ++ "\n"
    ++ String.join (s.dbrps.map fun d => "dbrp: " ++ d.describe ++ "\n")
    ++ String.join (s.templateVars.map fun v => "var: " ++ v.1 ++ " " ++ v.2.name ++ "\n")
    ++ "statements: " ++ toString s.statements

/-- A summary as a wire value. Template variables appear only if there are some. -/
def encode (s : Summary) : Wire.Value :=
  let vars := s.templateVars.map fun v =>
    Wire.Value.object [("name", .string v.1), ("type", .string v.2.name)]
  .object ([("type", .string s.taskType.name), ("dbrps", .array (s.dbrps.map Dbrp.encode)),
    ("statements", .int s.statements)]
    ++ if vars.isEmpty then [] else [("template_vars", .array vars)])

end Summary

end Tickscript
