import Tickscript.Load.Run
import Tickscript.Pattern.Limits
import Tickscript.Wire.Json
import Tickscript.Wire.Yaml

/-!
# The libraries that the program runs with

A load leaves open what compiles regexes and what reads documents, for which sections 10.3 and 10.9
of the specification name libraries. This file chooses: patterns are compiled by `Pattern.engine`,
and documents are read as `Wire.Json` and `Wire.Yaml` say. The latter does not know anchors and
aliases, tags and directives, so a document with one of them is malformed here.
-/

namespace Tickscript

namespace Wire

/-- Decodes a JSON document. -/
def Json.decode? {α : Type} (d : Decoder α) (text : String) : Option α :=
  (parse? text).bind fun tree => d format ⟨0, tree⟩

/-- Decodes a YAML document. -/
def Yaml.decode? {α : Type} (d : Decoder α) (text : String) : Option α :=
  (Node.parse? text).bind fun node => d format ⟨0, node⟩

end Wire

/-- The libraries that the program runs with. -/
@[reducible]
def Load.libraries : Load.Libraries where
  toEngine := Pattern.engine
  json? := Wire.Json.decode?
  yaml? := Wire.Yaml.decode?

end Tickscript
