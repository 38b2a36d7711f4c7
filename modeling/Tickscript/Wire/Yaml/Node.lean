import Tickscript.Wire.Yaml.Token

/-!
# Trees of YAML documents

A document is a scalar, a sequence or a mapping. Values that are left out read as an empty plain
scalar, and so does an empty document; a text may hold one document only.
-/

namespace Tickscript.Wire.Yaml

/-- A tree. Scalars keep their text; only a plain one may be read as anything but a string. -/
inductive Node where
  | scalar (plain : Bool) (text : String)
  | sequence (items : List Node)
  | mapping (entries : List (Node × Node))

namespace Node

/-- A value that is left out. -/
def absent : Node := scalar true ""

/-- What is read, and the tokens that are left. -/
abbrev Step (α : Type) := Option (α × List Token)

/-- Reads a node unless the next token is one of `ends`, where a value is left out. -/
def orAbsent (ends : List Token) (node : List Token → Step Node) (ts : List Token) : Step Node :=
  match ts with
  | [] => none
  | t :: _ => if ends.contains t then some (absent, ts) else node ts

mutual

/-- Reads a node. `block` allows block collections, and `compact` a sequence that is no deeper
than the mapping around it. -/
def read (block compact : Bool) : Nat → List Token → Step Node
  | 0, _ => none
  | n + 1, ts =>
    match ts with
    | .scalar plain text :: ts => some (scalar plain text, ts)
    | .flowSequence :: ts => (flowItems true n ts).map fun (is, ts) => (sequence is, ts)
    | .flowMapping :: ts => (flowEntries true n ts).map fun (es, ts) => (mapping es, ts)
    | .blockEntry :: _ =>
      if compact then (compactItems n ts).map fun (is, ts) => (sequence is, ts) else none
    | .blockSequence :: ts =>
      if block then (blockItems n ts).map fun (is, ts) => (sequence is, ts) else none
    | .blockMapping :: ts =>
      if block then (blockEntries n ts).map fun (es, ts) => (mapping es, ts) else none
    | _ => none

/-- Reads the items of a block sequence up to its end. -/
def blockItems : Nat → List Token → Step (List Node)
  | 0, _ => none
  | n + 1, ts =>
    match ts with
    | .blockEntry :: ts =>
      match orAbsent [.blockEntry, .blockEnd] (read true false n) ts with
      | none => none
      | some (item, ts) => (blockItems n ts).map fun (is, ts) => (item :: is, ts)
    | .blockEnd :: ts => some ([], ts)
    | _ => none

/-- Reads the items of a sequence that ends where no further item begins. -/
def compactItems : Nat → List Token → Step (List Node)
  | 0, _ => none
  | n + 1, ts =>
    match ts with
    | .blockEntry :: ts =>
      match orAbsent [.blockEntry, .key, .value, .blockEnd] (read true false n) ts with
      | none => none
      | some (item, ts) => (compactItems n ts).map fun (is, ts) => (item :: is, ts)
    | _ => some ([], ts)

/-- Reads the entries of a block mapping up to its end. -/
def blockEntries : Nat → List Token → Step (List (Node × Node))
  | 0, _ => none
  | n + 1, ts =>
    match ts with
    | .key :: ts =>
      match orAbsent [.key, .value, .blockEnd] (read true true n) ts with
      | none => none
      | some (k, ts) =>
        let value :=
          match ts with
          | .value :: ts => orAbsent [.key, .value, .blockEnd] (read true true n) ts
          | ts => some (absent, ts)
        match value with
        | none => none
        | some (v, ts) => (blockEntries n ts).map fun (es, ts) => ((k, v) :: es, ts)
    | .blockEnd :: ts => some ([], ts)
    | _ => none

/-- Reads the items of a flow sequence up to its end. A single entry of a mapping may stand as an
item. -/
def flowItems (first : Bool) : Nat → List Token → Step (List Node)
  | 0, _ => none
  | n + 1, ts =>
    match ts with
    | .flowSequenceEnd :: ts => some ([], ts)
    | _ =>
      let rest :=
        match first, ts with
        | true, ts => some ts
        | false, .flowEntry :: ts => some ts
        | false, _ => none
      match rest with
      | none => none
      | some (.flowSequenceEnd :: ts) => some ([], ts)
      | some (.key :: ts) =>
        match orAbsent [.value, .flowEntry, .flowSequenceEnd] (read false false n) ts with
        | none => none
        | some (k, ts) =>
          let value :=
            match ts with
            | .value :: ts => orAbsent [.flowEntry, .flowSequenceEnd] (read false false n) ts
            | ts => some (absent, ts)
          match value with
          | none => none
          | some (v, ts) =>
            (flowItems false n ts).map fun (is, ts) => (mapping [(k, v)] :: is, ts)
      | some ts =>
        match read false false n ts with
        | none => none
        | some (item, ts) => (flowItems false n ts).map fun (is, ts) => (item :: is, ts)

/-- Reads the entries of a flow mapping up to its end. -/
def flowEntries (first : Bool) : Nat → List Token → Step (List (Node × Node))
  | 0, _ => none
  | n + 1, ts =>
    match ts with
    | .flowMappingEnd :: ts => some ([], ts)
    | _ =>
      let rest :=
        match first, ts with
        | true, ts => some ts
        | false, .flowEntry :: ts => some ts
        | false, _ => none
      match rest with
      | none => none
      | some (.flowMappingEnd :: ts) => some ([], ts)
      | some (.key :: ts) =>
        match orAbsent [.value, .flowEntry, .flowMappingEnd] (read false false n) ts with
        | none => none
        | some (k, ts) =>
          let value :=
            match ts with
            | .value :: ts => orAbsent [.flowEntry, .flowMappingEnd] (read false false n) ts
            | ts => some (absent, ts)
          match value with
          | none => none
          | some (v, ts) => (flowEntries false n ts).map fun (es, ts) => ((k, v) :: es, ts)
      | some ts =>
        match read false false n ts with
        | none => none
        | some (k, ts) => (flowEntries false n ts).map fun (es, ts) => ((k, absent) :: es, ts)

end

/-- Reads the only document of a text. -/
def ofTokens? (ts : List Token) : Option Node :=
  let fuel := 2 * ts.length + 2
  let document : Step Node :=
    match ts with
    | [.streamEnd] => some (absent, ts)
    | .documentStart :: ts =>
      orAbsent [.documentStart, .documentEnd, .streamEnd] (read true false fuel) ts
    | ts => read true false fuel ts
  match document with
  | some (node, rest) =>
    if rest.dropWhile (· == .documentEnd) == [.streamEnd] then some node else none
  | none => none

/-- The tree of a text. -/
def parse? (text : String) : Option Node := (tokenize text).bind ofTokens?

end Node

end Tickscript.Wire.Yaml
