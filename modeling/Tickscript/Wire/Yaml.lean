import Tickscript.Wire.Format
import Tickscript.Wire.Yaml.Node

/-!
# YAML documents

The tree of a document says nothing about the types of its plain scalars. A decoder that asks for
a text gets the scalar as it is written; a free-form value is null, a truth value or a number if
the scalar looks like one, and a string otherwise. What is left out is an empty list, an empty map
or a record without entries where one is asked for; a sequence is never a record.
-/

namespace Tickscript.Wire.Yaml

/-! ## Plain scalars -/

/-- Whether a plain scalar is null. -/
def isNullText (s : String) : Bool :=
  s == "" || s == "~" || s == "null" || s == "Null" || s == "NULL"

/-- The truth value of a plain scalar. -/
def boolOf? (s : String) : Option Bool :=
  if s == "true" || s == "True" || s == "TRUE" then some true
  else if s == "false" || s == "False" || s == "FALSE" then some false
  else none

/-- The base that the two characters in front of a number ask for, and the digits. -/
def basedDigits (cs : List Char) : Option (Nat × List Char) :=
  match cs with
  | '0' :: 'x' :: ds => some (16, ds)
  | '0' :: 'o' :: ds => some (8, ds)
  | '0' :: 'b' :: ds => some (2, ds)
  | _ => none

/-- Whether digits begin with a zero that stands for nothing, which makes them no number. -/
def hasIdleZero (cs : List Char) : Bool :=
  match cs with
  | '0' :: c :: ds => (c :: ds).all Char.isDigit
  | _ => false

/-- A plain scalar's sign and what follows it. -/
def signOf (cs : List Char) : Bool × List Char :=
  match cs with
  | '+' :: tl => (false, tl)
  | '-' :: tl => (true, tl)
  | _ => (false, cs)

/-- The whole number that a plain scalar stands for. -/
def intOf? (cs : List Char) : Option Int :=
  let (negative, ds) := signOf cs
  let magnitude :=
    match basedDigits ds with
    | some (base, ds) => Text.natural? base ds
    | none => if hasIdleZero ds then none else Text.natural? 10 ds
  magnitude.map fun n => if negative then -n else n

/-- The floating-point number that digits, a point and an exponent stand for. -/
def floatOf? (cs : List Char) : Option Binary64 :=
  let whole := cs.takeWhile Char.isDigit
  let cs := cs.dropWhile Char.isDigit
  let fraction := if cs.head? = some '.' then (cs.drop 1).takeWhile Char.isDigit else []
  let cs := if cs.head? = some '.' then (cs.drop 1).dropWhile Char.isDigit else cs
  let marked := cs.head? = some 'e' ∨ cs.head? = some 'E'
  let (minus, digits) := if marked then signOf (cs.drop 1) else (false, [])
  if (whole = [] ∧ fraction = []) ∨ (!marked ∧ cs ≠ []) ∨ !digits.all Char.isDigit
      ∨ (marked ∧ digits = []) then none
  else
    let n := Text.decimal (whole ++ fraction)
    let e := Text.decimal digits
    if n = 0 then some .zero
    else if minus then
      if 400 + (whole ++ fraction).length < e then some .zero
      else some (.ofRatio n (Nat.pow 10 (fraction.length + e)))
    else if 400 + fraction.length < e then some .infinity
    else some (.ofRatio (n * Nat.pow 10 e) (Nat.pow 10 fraction.length))

/-- The words for infinity and for an undefined number. -/
def specialFloat? (s : String) : Option Binary64 :=
  if s == ".inf" || s == ".Inf" || s == ".INF" || s == "+.inf" || s == "+.Inf" || s == "+.INF" then
    some .infinity
  else if s == "-.inf" || s == "-.Inf" || s == "-.INF" then some Binary64.infinity.neg
  else if s == ".nan" || s == ".NaN" || s == ".NAN" then some .undefined
  else none

/-- The largest and the least whole numbers that a value can hold lie below these bounds; a
scalar that stands for a whole number beyond them but within 128 bits has no value. -/
def plainInt? (n : Int) : Option (Option Value) :=
  if -(Int.pow 2 63) ≤ n ∧ n < Int.pow 2 64 then some (some (.int n))
  else if -(Int.pow 2 127) ≤ n ∧ n < Int.pow 2 128 then none
  else some none

/-- The free-form value of a plain scalar. A number that is not finite reads as null. -/
def plainValue? (s : String) : Option Value :=
  if isNullText s then some .null
  else
    match boolOf? s with
    | some b => some (.bool b)
    | none =>
      let (negative, digits) := signOf s.toList
      let word :=
        if hasIdleZero digits then Value.string s
        else
          match specialFloat? s with
          | some _ => .null
          | none =>
            match floatOf? digits with
            | some x =>
              if x.isFinite then .float (if negative then x.neg else x) else .string s
            | none => .string s
      match intOf? s.toList with
      | none => some word
      | some n =>
        match plainInt? n with
        | none => none
        | some none => some word
        | some (some v) => some v

/-! ## The format -/

/-- How many collections a value may stand in. -/
def maxDepth : Nat := 128

/-- A node of a document and the number of collections it stands in. -/
structure Located where
  depth : Nat
  node : Node

/-- The text of a scalar. -/
def Node.text? : Node → Option String
  | .scalar _ s => some s
  | _ => none

mutual

/-- The free-form value of a node that stands in `depth` collections. -/
def Node.value? (depth : Nat) : Node → Option Value
  | .scalar plain s => if plain then plainValue? s else some (.string s)
  | .sequence items =>
    if depth < maxDepth then (Node.values? (depth + 1) items).map .array else none
  | .mapping entries =>
    if depth < maxDepth then
      (Node.valueEntries? (depth + 1) entries).map fun es => .object (sortEntries es)
    else none

/-- The free-form values of nodes. -/
def Node.values? (depth : Nat) : List Node → Option (List Value)
  | [] => some []
  | n :: ns => do
    let v ← n.value? depth
    let vs ← Node.values? depth ns
    return v :: vs

/-- The entries of a free-form map. -/
def Node.valueEntries? (depth : Nat) : List (Node × Node) → Option (List (String × Value))
  | [] => some []
  | (k, n) :: es => do
    let key ← k.text?
    let v ← n.value? depth
    let vs ← Node.valueEntries? depth es
    return (key, v) :: vs

end

namespace Located

/-- Whether a value is left out here. -/
def isAbsent (n : Located) : Bool :=
  match n.node with
  | .scalar plain s => plain && s == ""
  | _ => false

/-- The nodes of a sequence. -/
def items? (n : Located) : Option (List Located) :=
  match n.node with
  | .sequence items =>
    if n.depth < maxDepth then some (items.map fun m => ⟨n.depth + 1, m⟩) else none
  | _ => if n.isAbsent then some [] else none

/-- The entries of a mapping, or none if it is left out. -/
def entries? (n : Located) : Option (List (String × Located)) :=
  match n.node with
  | .mapping entries =>
    if n.depth < maxDepth then
      entries.mapM fun e => e.1.text?.map fun k => (k, ⟨n.depth + 1, e.2⟩)
    else none
  | _ => if n.isAbsent then some [] else none

/-- A truth value. -/
def bool? (n : Located) : Option Bool :=
  match n.node with
  | .scalar true s => boolOf? s
  | _ => none

/-- Whether a plain null is here. -/
def isNull (n : Located) : Bool :=
  match n.node with
  | .scalar plain s => plain && isNullText s
  | _ => false

end Located

/-- YAML documents as a format. -/
def format : Format Located where
  text? := fun n => n.node.text?
  bool? := Located.bool?
  constant? := fun n => n.node.text?
  isNull := Located.isNull
  value? := fun n => n.node.value? n.depth
  items? := Located.items?
  entries? := Located.entries?
  record? := fun _ => Located.entries?

end Tickscript.Wire.Yaml
