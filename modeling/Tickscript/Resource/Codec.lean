import Tickscript.Resource
import Tickscript.Wire.Format

/-!
# Resources on the wire

How resources are read and written (section 10.9 of the specification). Every resource is a record.
Descriptions and match expressions are left out if they are empty, and a missing optional part is
written as null. Decoders work on every format.
-/

namespace Tickscript

open Wire (Value Format)

/-! ## Encoding -/

/-- Writes the values of a map. -/
def encodeEntries {α : Type} (encode : α → Value) (entries : List (String × α)) : Value :=
  .object (entries.map fun e => (e.1, encode e.2))

/-- Writes an optional text. -/
def encodeText? : Option String → Value
  | none => .null
  | some s => .string s

/-- An entry that is left out if its text is empty. -/
def textUnlessEmpty (name text : String) : List (String × Value) :=
  if text = "" then [] else [(name, .string text)]

/-- A variable as a wire value. -/
def Var.encode (v : Var) : Value :=
  .object ([("type", .string v.type.name), ("value", v.value)]
    ++ textUnlessEmpty "description" v.description)

/-- The variables of a task as a wire value. -/
def TaskVars.encode (v : TaskVars) : Value :=
  .object [("template-id", .string v.templateId), ("dbrps", .array (v.dbrps.map Dbrp.encode)),
    ("vars", encodeEntries Var.encode v.vars)]

/-- A task as a wire value. -/
def Task.encode (t : Task) : Value :=
  .object [("id", .string t.id), ("template_id", encodeText? t.templateId),
    ("type", encodeText? (t.type.map TaskType.name)), ("dbrps", .array (t.dbrps.map Dbrp.encode)),
    ("tickscript", encodeText? t.script), ("status", .string t.status.name),
    ("vars", encodeEntries Var.encode t.vars)]

/-- A template as a wire value. -/
def Template.encode (t : Template) : Value :=
  .object [("id", .string t.id), ("type", .string t.type.name), ("tickscript", .string t.script)]

/-- A handler as a wire value. -/
def Handler.encode (h : Handler) : Value :=
  .object ([("topic", .string h.topic), ("id", .string h.id), ("kind", .string h.kind)]
    ++ textUnlessEmpty "match" h.matching ++ [("options", .object h.options)])

/-- A configuration as a wire value. -/
def LoadConfig.encode (c : LoadConfig) : Value :=
  .object [("enabled", .bool c.enabled), ("dir", .string c.dir)]

/-! ## Decoding -/

variable {ν : Type}

/-- Reads a constant by its name. -/
def decodeConstant {α : Type} (ofName? : String → Option α) (f : Format ν) (n : ν) : Option α :=
  (f.constant? n).bind ofName?

/-- Reads the type of a variable. -/
def VarType.decode (f : Format ν) (n : ν) : Option VarType := decodeConstant VarType.ofName? f n

/-- Reads the type of a task. -/
def TaskType.decode (f : Format ν) (n : ν) : Option TaskType := decodeConstant TaskType.ofName? f n

/-- Reads a status. -/
def Status.decode (f : Format ν) (n : ν) : Option Status := decodeConstant Status.ofName? f n

/-- Reads a database and a retention policy. -/
def Dbrp.decode (f : Format ν) (n : ν) : Option Dbrp := do
  let es ← f.fields? ["db", "rp"] n
  return {
    database := ← Format.required f.text? "db" es
    retentionPolicy := ← Format.required f.text? "rp" es }

/-- Reads a variable. -/
def Var.decode (f : Format ν) (n : ν) : Option Var := do
  let es ← f.fields? ["type", "value", "description"] n
  return {
    type := ← Format.required (VarType.decode f) "type" es
    value := ← Format.required f.value? "value" es
    description := ← Format.withDefault "" f.text? "description" es }

/-- Reads the variables of a task. -/
def TaskVars.decode (f : Format ν) (n : ν) : Option TaskVars := do
  let es ← f.fields? ["template-id", "dbrps", "vars"] n
  return {
    templateId := ← Format.required f.text? "template-id" es
    dbrps := ← Format.withDefault [] (f.list? (Dbrp.decode f)) "dbrps" es
    vars := ← Format.withDefault [] (f.map? (Var.decode f)) "vars" es }

/-- Reads a task. Only its id and its status have to be there. -/
def Task.decode (f : Format ν) (n : ν) : Option Task := do
  let es ←
    f.fields? ["id", "template_id", "type", "dbrps", "tickscript", "status", "vars"] n
  return {
    id := ← Format.required f.text? "id" es
    templateId := ← Format.withDefault none (f.optional? f.text?) "template_id" es
    type := ← Format.withDefault none (f.optional? (TaskType.decode f)) "type" es
    dbrps := ← Format.withDefault [] (f.list? (Dbrp.decode f)) "dbrps" es
    script := ← Format.withDefault none (f.optional? f.text?) "tickscript" es
    status := ← Format.required (Status.decode f) "status" es
    vars := ← Format.withDefault [] (f.map? (Var.decode f)) "vars" es }

/-- Reads a template. -/
def Template.decode (f : Format ν) (n : ν) : Option Template := do
  let es ← f.fields? ["id", "type", "tickscript"] n
  return {
    id := ← Format.required f.text? "id" es
    type := ← Format.required (TaskType.decode f) "type" es
    script := ← Format.required f.text? "tickscript" es }

/-- Reads a handler. -/
def Handler.decode (f : Format ν) (n : ν) : Option Handler := do
  let es ← f.fields? ["topic", "id", "kind", "match", "options"] n
  return {
    topic := ← Format.required f.text? "topic" es
    id := ← Format.required f.text? "id" es
    kind := ← Format.required f.text? "kind" es
    matching := ← Format.withDefault "" f.text? "match" es
    options := ← Format.withDefault [] (f.map? f.value?) "options" es }

/-- Reads a configuration, of which every part may be left out. -/
def LoadConfig.decode (f : Format ν) (n : ν) : Option LoadConfig := do
  let es ← f.fields? ["enabled", "dir"] n
  return {
    enabled := ← Format.withDefault false f.bool? "enabled" es
    dir := ← Format.withDefault "" f.text? "dir" es }

end Tickscript
