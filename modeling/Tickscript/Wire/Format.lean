import Tickscript.Wire.Value

/-!
# Formats

Documents are in one of two formats, by the extension of the file (section 10.9 of the
specification). A format says how the nodes of a document are read as the parts of a record.
Decoders are written once against this interface, and so hold for every format: the two text
formats, and values themselves (`Value.format`). What reads the text formats is left open
(`Documents`).

A record ignores entries that it does not know, and refuses a known one that is repeated; a map
keeps the last of several entries with one key.
-/

namespace Tickscript.Wire

/-- How nodes of type `ν` are read. `constant?` reads the name of a constant, `isNull` tells a
missing optional value, and `record?` gives the entries of a record with the given fields. -/
structure Format (ν : Type) where
  text? : ν → Option String
  bool? : ν → Option Bool
  constant? : ν → Option String
  isNull : ν → Bool
  value? : ν → Option Value
  items? : ν → Option (List ν)
  entries? : ν → Option (List (String × ν))
  record? : List String → ν → Option (List (String × ν))

/-- Pairs the elements of an array with the fields of a record, in order. Fields may be left over,
elements may not. -/
def zipFields {ν : Type} : List String → List ν → Option (List (String × ν))
  | _, [] => some []
  | [], _ :: _ => none
  | f :: fs, n :: ns => (zipFields fs ns).map ((f, n) :: ·)

namespace Format

variable {ν : Type}

/-- The entries of a record, if none of its fields is repeated. -/
def fields? (f : Format ν) (names : List String) (n : ν) : Option (List (String × ν)) :=
  match f.record? names n with
  | none => none
  | some entries =>
    if names.all fun name => (entries.filter fun e => e.1 == name).length ≤ 1 then some entries
    else none

/-- The field `name`, which has to be there. -/
def required {α : Type} (read : ν → Option α) (name : String) (entries : List (String × ν)) :
    Option α :=
  (lookup? name entries).bind read

/-- The field `name`, or `default` if it is not there. -/
def withDefault {α : Type} (default : α) (read : ν → Option α) (name : String)
    (entries : List (String × ν)) : Option α :=
  match lookup? name entries with
  | none => some default
  | some n => read n

/-- Reads an optional value. -/
def optional? {α : Type} (f : Format ν) (read : ν → Option α) (n : ν) : Option (Option α) :=
  if f.isNull n then some none else (read n).map some

/-- Reads a list. -/
def list? {α : Type} (f : Format ν) (read : ν → Option α) (n : ν) : Option (List α) :=
  (f.items? n).bind fun ns => ns.mapM read

/-- Reads the values of a map. -/
def readEntries {α : Type} (read : ν → Option α) : List (String × ν) → Option (List (String × α))
  | [] => some []
  | (k, n) :: es => do
    let v ← read n
    let vs ← readEntries read es
    return (k, v) :: vs

/-- Reads a map, in increasing order of keys. -/
def map? {α : Type} (f : Format ν) (read : ν → Option α) (n : ν) :
    Option (List (String × α)) :=
  (f.entries? n).bind fun es => (readEntries read es).map sortEntries

end Format

/-- How a value is read from a document in any format. -/
abbrev Decoder (α : Type) := {ν : Type} → Format ν → ν → Option α

/-- What reads documents. Each reader is given the text of a document and what to decode from it,
and gives nothing if the text is malformed or is not decoded. -/
class Documents where
  json? {α : Type} : Decoder α → String → Option α
  yaml? {α : Type} : Decoder α → String → Option α

namespace Value

/-- The text of a string. -/
def text? : Value → Option String
  | string s => some s
  | _ => none

/-- A truth value. -/
def bool? : Value → Option Bool
  | bool b => some b
  | _ => none

/-- The name of a constant: a string, or an object with that key and a null. -/
def constant? : Value → Option String
  | string s => some s
  | object [(k, null)] => some k
  | _ => none

/-- Whether the value is null. -/
def isNull : Value → Bool
  | null => true
  | _ => false

/-- The elements of an array. -/
def items? : Value → Option (List Value)
  | array items => some items
  | _ => none

/-- The entries of an object. -/
def entries? : Value → Option (List (String × Value))
  | object entries => some entries
  | _ => none

/-- A record is an object, or an array of its fields in order. -/
def record? (names : List String) : Value → Option (List (String × Value))
  | object entries => some entries
  | array items => zipFields names items
  | _ => none

/-- Values as documents. -/
def format : Format Value where
  text? := text?
  bool? := bool?
  constant? := constant?
  isNull := isNull
  value? := fun v => some v.canonical
  items? := items?
  entries? := entries?
  record? := record?

end Value

end Tickscript.Wire
