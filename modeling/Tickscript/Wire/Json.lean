import Tickscript.Text.Digits
import Tickscript.Wire.Format

/-!
# JSON documents

`Json.parse?` reads the grammar of JSON and leaves strings and numbers as they are written. They
are read when a decoder asks for them, so that what a record ignores only has to be grammatical.

A number with a fraction or an exponent, and one that does not fit in 64 bits, is read as a
floating-point number: its first digits as a whole number, rounded, and then one multiplication
or division by a power of ten.
-/

namespace Tickscript.Wire.Json

/-- A number as it is written: a sign, the digits before and behind the point, and the sign and
the digits of the exponent. -/
structure Numeral where
  negative : Bool
  whole : List Char
  fraction : List Char
  exponent : Option (Bool × List Char)
deriving Repr, DecidableEq

/-- A document as it is written. The text of a string still has its escapes. -/
inductive Tree where
  | null
  | bool (b : Bool)
  | number (n : Numeral)
  | string (raw : List Char)
  | array (items : List Tree)
  | object (entries : List (List Char × Tree))

/-! ## Grammar -/

/-- What is read, and what is left. -/
abbrev Step (α : Type) := Option (α × List Char)

/-- Whether `c` may stand between tokens. -/
def isSpace (c : Char) : Bool := c == ' ' || c == '\n' || c == '\t' || c == '\r'

/-- Without the space in front. -/
def skip (cs : List Char) : List Char := cs.dropWhile isSpace

/-- Takes a given text off the front. -/
def literal? : List Char → List Char → Option (List Char)
  | [], cs => some cs
  | _ :: _, [] => none
  | e :: es, c :: cs => if e = c then literal? es cs else none

/-- The value of four hexadecimal digits. -/
def hex4? (a b c d : Char) : Option Nat := Text.natural? 16 [a, b, c, d]

/-- The letters that may follow a backslash on their own. -/
def shortEscapes : List (Char × Char) :=
  [('"', '"'), ('\\', '\\'), ('/', '/'), ('b', '\x08'), ('f', '\x0c'), ('n', '\n'), ('r', '\r'),
    ('t', '\t')]

/-- The inside of a string of which the opening quote has been taken. -/
def stringBody? : Nat → List Char → Step (List Char)
  | 0, _ => none
  | n + 1, cs =>
    match cs with
    | [] => none
    | '"' :: tl => some ([], tl)
    | '\\' :: 'u' :: a :: b :: c :: d :: tl =>
      if (hex4? a b c d).isSome then
        (stringBody? n tl).map fun (s, r) => ('\\' :: 'u' :: a :: b :: c :: d :: s, r)
      else none
    | '\\' :: e :: tl =>
      if shortEscapes.any (·.1 == e) then
        (stringBody? n tl).map fun (s, r) => ('\\' :: e :: s, r)
      else none
    | c :: tl =>
      if c = '\\' ∨ c.toNat < 0x20 then none
      else (stringBody? n tl).map fun (s, r) => (c :: s, r)

/-- A number. Only a zero alone may begin with a zero. -/
def numeral? (cs : List Char) : Step Numeral :=
  let negative := cs.head? = some '-'
  let cs := if negative then cs.drop 1 else cs
  let digits := cs.takeWhile Char.isDigit
  let whole := if digits.head? = some '0' then ['0'] else digits
  let cs := cs.drop whole.length
  if whole = [] then none
  else
    let fraction := if cs.head? = some '.' then (cs.drop 1).takeWhile Char.isDigit else []
    if cs.head? = some '.' ∧ fraction = [] then none
    else
      let cs := if cs.head? = some '.' then cs.drop (1 + fraction.length) else cs
      if cs.head? = some 'e' ∨ cs.head? = some 'E' then
        let cs := cs.drop 1
        let signed := cs.head? = some '-' ∨ cs.head? = some '+'
        let minus := cs.head? = some '-'
        let cs := if signed then cs.drop 1 else cs
        let exponent := cs.takeWhile Char.isDigit
        if exponent = [] then none
        else some (⟨negative, whole, fraction, some (minus, exponent)⟩, cs.drop exponent.length)
      else some (⟨negative, whole, fraction, none⟩, cs)

mutual

/-- A value, with nothing but space in front of it. -/
def value? : Nat → List Char → Step Tree
  | 0, _ => none
  | n + 1, cs =>
    match skip cs with
    | '"' :: tl => (stringBody? (tl.length + 1) tl).map fun (s, r) => (.string s, r)
    | '[' :: tl =>
      match skip tl with
      | ']' :: r => some (.array [], r)
      | r => (items? n r).map fun (is, r) => (.array is, r)
    | '\x7b' :: tl =>
      match skip tl with
      | '\x7d' :: r => some (.object [], r)
      | r => (entries? n r).map fun (es, r) => (.object es, r)
    | 'n' :: tl => (literal? ['u', 'l', 'l'] tl).map fun r => (.null, r)
    | 't' :: tl => (literal? ['r', 'u', 'e'] tl).map fun r => (.bool true, r)
    | 'f' :: tl => (literal? ['a', 'l', 's', 'e'] tl).map fun r => (.bool false, r)
    | cs => (numeral? cs).map fun (m, r) => (.number m, r)

/-- The items of an array up to its end; at least one. -/
def items? : Nat → List Char → Step (List Tree)
  | 0, _ => none
  | n + 1, cs =>
    match value? n cs with
    | none => none
    | some (v, r) =>
      match skip r with
      | ',' :: r => (items? n r).map fun (vs, r) => (v :: vs, r)
      | ']' :: r => some ([v], r)
      | _ => none

/-- The entries of an object up to its end; at least one. -/
def entries? : Nat → List Char → Step (List (List Char × Tree))
  | 0, _ => none
  | n + 1, cs =>
    match skip cs with
    | '"' :: tl =>
      match stringBody? (tl.length + 1) tl with
      | none => none
      | some (k, r) =>
        match skip r with
        | ':' :: r =>
          match value? n r with
          | none => none
          | some (v, r) =>
            match skip r with
            | ',' :: r => (entries? n r).map fun (es, r) => ((k, v) :: es, r)
            | '\x7d' :: r => some ([(k, v)], r)
            | _ => none
        | _ => none
    | _ => none

end

/-- The document that a text is. Every call takes a character or follows one that does, which
bounds their nesting. -/
def parse? (text : String) : Option Tree :=
  match value? (2 * text.length + 2) text.toList with
  | some (v, r) => if skip r = [] then some v else none
  | none => none

/-! ## Strings and numbers -/

/-- The text of a string. Escaped surrogates have to come in pairs. -/
def unescape? : Nat → List Char → Option (List Char)
  | 0, _ => none
  | n + 1, cs =>
    match cs with
    | [] => some []
    | '\\' :: 'u' :: a :: b :: c :: d :: tl => do
      let hi ← hex4? a b c d
      if 0xd800 ≤ hi ∧ hi < 0xdc00 then
        match tl with
        | '\\' :: 'u' :: a :: b :: c :: d :: tl =>
          let lo ← hex4? a b c d
          if 0xdc00 ≤ lo ∧ lo < 0xe000 then
            let s ← unescape? n tl
            return Char.ofNat (0x10000 + (hi - 0xd800) * 0x400 + (lo - 0xdc00)) :: s
          else none
        | _ => none
      else if 0xdc00 ≤ hi ∧ hi < 0xe000 then none
      else return Char.ofNat hi :: (← unescape? n tl)
    | '\\' :: e :: tl => do
      let (_, c) ← shortEscapes.find? (·.1 == e)
      return c :: (← unescape? n tl)
    | c :: tl => do return c :: (← unescape? n tl)

/-- The text of a string. -/
def text? (raw : List Char) : Option String :=
  (unescape? (raw.length + 1) raw).map String.ofList

/-- One more than the largest whole number that digits are collected in. -/
def limit : Nat := Nat.pow 2 64

/-- Collects digits while the number they make stays below the limit. The answer also holds the
digits that are left. -/
def collect (n : Nat) : List Char → Nat × List Char
  | [] => (n, [])
  | c :: cs =>
    let m := 10 * n + Text.digitValue c
    if m < limit then collect m cs else (n, c :: cs)

/-- The power of ten nearest to `10^n`. -/
def powerOfTen (n : Nat) : Binary64 := .ofRatio (Nat.pow 10 n) 1

/-- `x * 10^e`, by steps that powers of ten allow. A result that is too large is refused; after
few steps down a number vanishes. -/
def scaleBy (e : Int) : Nat → Binary64 → Option Binary64
  | 0, _ => some .zero
  | n + 1, x =>
    if e.natAbs ≤ 308 then
      if 0 ≤ e then
        let y := x.mul (powerOfTen e.natAbs)
        if y.isFinite then some y else none
      else some (x.div (powerOfTen e.natAbs))
    else if x.magnitude = 0 then some x
    else if 0 ≤ e then none
    else scaleBy (e + 308) n (x.div (powerOfTen 308))

/-- The largest exponent that is counted. -/
def maxExponent : Nat := Nat.pow 2 31 - 1

/-- The exponent that digits stand for, if it is small enough to be counted. -/
def exponentOf? (cs : List Char) : Option Nat :=
  let n := Text.decimal cs
  if n ≤ maxExponent then some n else none

/-- A floating-point number with a sign. -/
def signed (negative : Bool) (x : Binary64) : Binary64 := if negative then x.neg else x

/-- The value of a number. -/
def Numeral.value? (m : Numeral) : Option Value :=
  let (n, left) := collect 0 m.whole
  if left = [] ∧ m.fraction = [] ∧ m.exponent = none then
    if !m.negative then some (.int n)
    else if n = 0 ∨ Nat.pow 2 63 < n then some (.float (Binary64.ofRatio n 1).neg)
    else some (.int (-n))
  else
    let (n, unread) := collect n m.fraction
    let shift : Int := left.length - (m.fraction.length - unread.length : Nat)
    match m.exponent with
    | none =>
      (scaleBy shift 8 (.ofRatio n 1)).map fun x => .float (signed m.negative x)
    | some (minus, digits) =>
      match exponentOf? digits with
      | some e =>
        let e : Int := if minus then shift - e else shift + e
        (scaleBy e 8 (.ofRatio n 1)).map fun x => .float (signed m.negative x)
      | none =>
        if n ≠ 0 ∧ !minus then none else some (.float (signed m.negative .zero))

/-! ## The format -/

/-- How many containers a value may stand in. -/
def maxDepth : Nat := 127

/-- A node of a document: what is written there, and in how many containers it stands. -/
structure Node where
  depth : Nat
  tree : Tree

mutual

/-- The free-form value of a tree that stands in `depth` containers. -/
def Tree.value? (depth : Nat) : Tree → Option Value
  | .null => some .null
  | .bool b => some (.bool b)
  | .number m => m.value?
  | .string raw => (text? raw).map .string
  | .array items =>
    if depth < maxDepth then (Tree.values? (depth + 1) items).map .array else none
  | .object entries =>
    if depth < maxDepth then
      (Tree.valueEntries? (depth + 1) entries).map fun es => .object (sortEntries es)
    else none

/-- The free-form values of trees. -/
def Tree.values? (depth : Nat) : List Tree → Option (List Value)
  | [] => some []
  | t :: ts => do
    let v ← t.value? depth
    let vs ← Tree.values? depth ts
    return v :: vs

/-- The entries of a free-form object. -/
def Tree.valueEntries? (depth : Nat) : List (List Char × Tree) → Option (List (String × Value))
  | [] => some []
  | (k, t) :: es => do
    let key ← text? k
    let v ← t.value? depth
    let vs ← Tree.valueEntries? depth es
    return (key, v) :: vs

end

namespace Node

/-- The nodes of an array. -/
def items? (n : Node) : Option (List Node) :=
  match n.tree with
  | .array items =>
    if n.depth < maxDepth then some (items.map fun t => ⟨n.depth + 1, t⟩) else none
  | _ => none

/-- The entries of an object. -/
def entries? (n : Node) : Option (List (String × Node)) :=
  match n.tree with
  | .object entries =>
    if n.depth < maxDepth then
      entries.mapM fun e => (text? e.1).map fun k => (k, ⟨n.depth + 1, e.2⟩)
    else none
  | _ => none

/-- The text of a string. -/
def text? (n : Node) : Option String :=
  match n.tree with
  | .string raw => Json.text? raw
  | _ => none

/-- A truth value. -/
def bool? (n : Node) : Option Bool :=
  match n.tree with
  | .bool b => some b
  | _ => none

/-- Whether a null is here. -/
def isNull (n : Node) : Bool :=
  match n.tree with
  | .null => true
  | _ => false

/-- The name of a constant: a string, or an object with that key and a null. -/
def constant? (n : Node) : Option String :=
  match n.entries? with
  | some [(k, v)] => if v.isNull then some k else none
  | some _ => none
  | none => n.text?

/-- A record is an object, or an array of its fields in order. -/
def record? (names : List String) (n : Node) : Option (List (String × Node)) :=
  match n.items? with
  | some items => zipFields names items
  | none => n.entries?

end Node

/-- JSON documents as a format. -/
def format : Format Node where
  text? := Node.text?
  bool? := Node.bool?
  constant? := Node.constant?
  isNull := Node.isNull
  value? := fun n => n.tree.value? n.depth
  items? := Node.items?
  entries? := Node.entries?
  record? := Node.record?

end Tickscript.Wire.Json
