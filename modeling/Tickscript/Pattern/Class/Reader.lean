import Tickscript.Pattern.Class
import Tickscript.Pattern.Escape

/-!
# Reading bracketed classes

Brackets nest, so a class is read with a stack: one level for each bracket that is open, holding the
items read so far and, after an operator, the class to its left. Operators of one level group to the
left.
-/

namespace Tickscript.Pattern.Class

open Text (CharSet)

/-- Single characters and ranges written as pairs of characters. -/
def ofPairs (pairs : List (Char × Char)) : CharSet :=
  (pairs.map fun (a, b) => CharSet.between a b).flatten

/-- The named classes that may stand inside brackets, as in `[[:alpha:]]`. -/
def named : List (String × CharSet) :=
  [("alnum", ofPairs [('0', '9'), ('A', 'Z'), ('a', 'z')]),
    ("alpha", ofPairs [('A', 'Z'), ('a', 'z')]),
    ("ascii", ofPairs [('\x00', '\x7f')]),
    ("blank", ofPairs [('\t', '\t'), (' ', ' ')]),
    ("cntrl", ofPairs [('\x00', '\x1f'), ('\x7f', '\x7f')]),
    ("digit", ofPairs [('0', '9')]),
    ("graph", ofPairs [('!', '~')]),
    ("lower", ofPairs [('a', 'z')]),
    ("print", ofPairs [(' ', '~')]),
    ("punct", ofPairs [('!', '/'), (':', '@'), ('[', '\x60'), ('\x7b', '~')]),
    ("space", ofPairs [('\t', '\r'), (' ', ' ')]),
    ("upper", ofPairs [('A', 'Z')]),
    ("word", ofPairs [('0', '9'), ('A', 'Z'), ('_', '_'), ('a', 'z')]),
    ("xdigit", ofPairs [('0', '9'), ('A', 'F'), ('a', 'f')])]

/-- A set as it is meant in a mode: with `ignoreCase`, both cases of each letter. -/
def inMode (ignoreCase : Bool) (s : CharSet) : CharSet :=
  if ignoreCase then s.foldCase else s

/-- A named class and what follows it, if `cs` starts with the inside of one. -/
def named? (ignoreCase : Bool) (cs : List Char) : Option (CharSet × List Char) :=
  match cs with
  | ':' :: tl =>
    let negated := tl.head? = some '^'
    let tl := if negated then tl.drop 1 else tl
    match tl.dropWhile (· ≠ ':') with
    | ':' :: ']' :: rest =>
      (named.lookup (String.ofList (tl.takeWhile (· ≠ ':')))).map fun s =>
        let s := inMode ignoreCase s
        (if negated then s.complement else s, rest)
    | _ => none
  | _ => none

/-- One end of a range, or an item of its own: a character or a set, but no assertion. -/
def item? : List Char → Option (Item × List Char)
  | [] => none
  | '\\' :: cs =>
    match escape? cs with
    | some (.assertion _, _) => none
    | other => other
  | c :: cs => some (.char c, cs)

/-- The characters that an item of its own stands for. -/
def itemSet : Item → CharSet
  | .char c => .single c
  | .set s => s
  | .assertion _ => []

/-- One item of a class, or two characters around a dash, in order. A dash before another dash or
before the closing bracket makes no range. -/
def range? (cs : List Char) : Option (CharSet × List Char) :=
  match item? cs with
  | none => none
  | some (lo, rest) =>
    match rest with
    | '-' :: d :: tl =>
      if d = ']' ∨ d = '-' then some (itemSet lo, rest)
      else
        match lo, item? (d :: tl) with
        | .char a, some (.char b, rest) => if a ≤ b then some (.between a b, rest) else none
        | _, _ => none
    | ['-'] => none
    | _ => some (itemSet lo, rest)

/-- A bracket that is open: whether it is negated, the class and operator to the left of the items
being read, and these items, the latest first. -/
structure Level where
  negated : Bool
  left : Option (Class × ClassOp)
  items : List Class

namespace Level

/-- The level with one more item. -/
def push (l : Level) (item : Class) : Level := { l with items := item :: l.items }

/-- All that has been read of a level, as one class. -/
def inside (l : Level) : Class :=
  let right := ofItems l.items.reverse
  match l.left with
  | some (left, op) => combine op left right
  | none => right

/-- The level after an operator. -/
def operator (l : Level) (op : ClassOp) : Level :=
  { l with left := some (l.inside, op), items := [] }

/-- The class of a level whose bracket is closed. -/
def close (l : Level) : Class := bracket l.negated l.inside

/-- Takes the head of a class: a negation, then dashes or one closing bracket that stand for
themselves. -/
def start (cs : List Char) : Level × List Char :=
  let negated := cs.head? = some '^'
  let cs := if negated then cs.drop 1 else cs
  let literals :=
    if cs.head? = some '-' then cs.takeWhile (· = '-')
    else if cs.head? = some ']' then [']']
    else []
  (⟨negated, none, literals.map fun c => chars (.single c)⟩, cs.drop literals.length)

end Level

/-- Reads a class to its last closing bracket, and gives what follows it. `outer` are the brackets
around the one of `level`, the innermost first. -/
def readFrom (ignoreCase : Bool) :
    Nat → Level → List Level → List Char → Option (Class × List Char)
  | 0, _, _, _ => none
  | fuel + 1, level, outer, cs =>
    match cs with
    | [] => none
    | '[' :: tl =>
      match named? ignoreCase tl with
      | some (s, rest) => readFrom ignoreCase fuel (level.push (chars s)) outer rest
      | none =>
        let (inner, rest) := Level.start tl
        readFrom ignoreCase fuel inner (level :: outer) rest
    | ']' :: tl =>
      match outer with
      | [] => some (level.close, tl)
      | around :: outer => readFrom ignoreCase fuel (around.push level.close) outer tl
    | '&' :: '&' :: tl => readFrom ignoreCase fuel (level.operator .intersection) outer tl
    | '-' :: '-' :: tl => readFrom ignoreCase fuel (level.operator .difference) outer tl
    | '~' :: '~' :: tl => readFrom ignoreCase fuel (level.operator .symmetricDifference) outer tl
    | _ =>
      match range? cs with
      | some (s, rest) =>
        readFrom ignoreCase fuel (level.push (chars (inMode ignoreCase s))) outer rest
      | none => none

/-- A class of which the first bracket has been taken, and what follows it. -/
def read? (ignoreCase : Bool) (cs : List Char) : Option (Class × List Char) :=
  let (level, rest) := Level.start cs
  readFrom ignoreCase (cs.length + 1) level [] rest

end Tickscript.Pattern.Class
