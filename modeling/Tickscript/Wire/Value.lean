import Tickscript.Number.Binary64

/-!
# Wire values

What tasks, templates and handlers (section 10.8 of the specification) are exchanged as: the values
of JSON, with whole numbers kept apart from floating-point ones. An object is a list of entries; a
free-form one that came from a document has its entries in increasing order of their keys, each key
once (`sortEntries`).
-/

namespace Tickscript.Wire

/-- A value. -/
inductive Value where
  | null
  | bool (b : Bool)
  | int (n : Int)
  | float (x : Binary64)
  | string (s : String)
  | array (items : List Value)
  | object (entries : List (String × Value))

instance : Inhabited Value := ⟨.null⟩

/-- Puts an entry into a list of entries that is in increasing order of keys. An entry with the
same key gives way. -/
def insertEntry {α : Type} (key : String) (value : α) : List (String × α) → List (String × α)
  | [] => [(key, value)]
  | (k, v) :: rest =>
    if key < k then (key, value) :: (k, v) :: rest
    else if key = k then (key, value) :: rest
    else (k, v) :: insertEntry key value rest

/-- Entries in increasing order of their keys. Of several with one key the last stays. -/
def sortEntries {α : Type} (entries : List (String × α)) : List (String × α) :=
  entries.foldl (fun acc e => insertEntry e.1 e.2 acc) []

/-- The value with a given key. -/
def lookup? {α : Type} (key : String) (entries : List (String × α)) : Option α :=
  (entries.find? fun e => e.1 == key).map (·.2)

mutual

/-- A value taken as a free-form one: the entries of objects come in increasing order of their
keys, of several with one key the last stays, and a float that is not finite, for which no number
can be written, becomes null. -/
def Value.canonical : Value → Value
  | .float x => if x.isFinite then .float x else .null
  | .array items => .array (Value.canonicalItems items)
  | .object entries => .object (sortEntries (Value.canonicalEntries entries))
  | v => v

/-- The elements of an array, taken as free-form values. -/
def Value.canonicalItems : List Value → List Value
  | [] => []
  | v :: vs => v.canonical :: Value.canonicalItems vs

/-- The entries of an object, taken as free-form values. -/
def Value.canonicalEntries : List (String × Value) → List (String × Value)
  | [] => []
  | (k, v) :: es => (k, v.canonical) :: Value.canonicalEntries es

end

end Tickscript.Wire
