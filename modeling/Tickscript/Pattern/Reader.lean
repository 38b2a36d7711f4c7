import Tickscript.Pattern
import Tickscript.Pattern.Class.Reader
import Tickscript.Text.Letter

/-!
# Reading regular expressions

Groups nest, so an expression is read with a stack: one level for each group that is open. A level
holds the options that are complete and the parts of the one being read; a repetition takes the last
of these parts. `State.step?` takes one element of the text, and `read?` goes on to its end.
-/

namespace Tickscript.Pattern

/-- The largest count of a repetition. -/
def maxCount : Nat := Nat.pow 2 32 - 1

/-- A count of a repetition, and what follows it. -/
def count? (cs : List Char) : Option (Nat × List Char) :=
  let cs := cs.dropWhile Char.isWhitespace
  let digits := cs.takeWhile Char.isDigit
  let n := Text.decimal digits
  if digits = [] ∨ maxCount < n then none
  else some (n, (cs.dropWhile Char.isDigit).dropWhile Char.isWhitespace)

/-- The least and the largest count of a repetition of which the opening brace has been taken, and
what follows the closing one. -/
def counts? (cs : List Char) : Option (Nat × Option Nat × List Char) :=
  match count? cs with
  | some (n, '}' :: rest) => some (n, some n, rest)
  | some (lo, ',' :: '}' :: rest) => some (lo, none, rest)
  | some (lo, ',' :: tl) =>
    match count? tl with
    | some (hi, '}' :: rest) => if lo ≤ hi then some (lo, some hi, rest) else none
    | _ => none
  | _ => none

/-- The counts of the repetition that `cs` starts with, and what follows them. -/
def bounds? : List Char → Option (Nat × Option Nat × List Char)
  | '*' :: tl => some (0, none, tl)
  | '+' :: tl => some (1, none, tl)
  | '?' :: tl => some (0, some 1, tl)
  | '{' :: tl => counts? tl
  | _ => none

/-- The repetition that `cs` starts with, and what follows it. A question mark makes it lazy. -/
def times? (cs : List Char) : Option (Times × List Char) :=
  (bounds? cs).map fun (lo, hi, rest) =>
    if rest.head? = some '?' then (⟨lo, hi, true⟩, rest.drop 1) else (⟨lo, hi, false⟩, rest)

/-- Whether `c` may stand in a group name after its first character. -/
def isGroupNamePart (c : Char) : Bool :=
  Text.isLetterOrDigit c || c == '_' || c == '.' || c == '[' || c == ']'

/-- A group name up to its closing angle bracket, and what follows it. -/
def groupName? (cs : List Char) : Option (List Char × List Char) :=
  match cs.dropWhile (· ≠ '>') with
  | [] => none
  | _ :: rest =>
    match cs.takeWhile (· ≠ '>') with
    | [] => none
    | c :: name =>
      if (Text.isLetter c || c == '_') && name.all isGroupNamePart then some (c :: name, rest)
      else none

/-- The letters that switch a mode on or off. -/
def flagLetters : List Char := ['i', 'm', 's', 'U', 'u', 'R', 'x']

/-- Whether the text between `(?` and `:` or `)` switches modes: each letter at most once, and at
most one minus, which letters follow. -/
def areFlags (cs : List Char) : Bool :=
  let letters := cs.filter (· ≠ '-')
  letters.all flagLetters.contains && letters.eraseDups.length == letters.length &&
    cs.length ≤ letters.length + 1 && cs.getLast? != some '-'

/-- Whether case is ignored after some flags. Letters after a minus switch a mode off. -/
def ignoresCase (before : Bool) (flags : List Char) : Bool :=
  if flags.contains 'i' then (flags.takeWhile (· ≠ '-')).contains 'i' else before

/-- Whether `c` ends the modes of a group. -/
def endsFlags (c : Char) : Bool := c == ':' || c == ')'

/-- What a parenthesis opens: a group, perhaps with a name and with modes of its own, or a switch of
modes that is no group. -/
inductive Opening where
  | group (capturing : Bool) (name : Option (List Char)) (ignoreCase : Bool)
  | modes (ignoreCase : Bool)
deriving Repr, DecidableEq

/-- What an opening parenthesis begins where `ignoreCase` holds, and what follows. -/
def opening? (ignoreCase : Bool) (cs : List Char) : Option (Opening × List Char) :=
  match cs with
  | '?' :: 'P' :: '<' :: tl =>
    (groupName? tl).map fun (name, rest) => (.group true (some name) ignoreCase, rest)
  | '?' :: '<' :: c :: tl =>
    if c = '=' ∨ c = '!' then none
    else (groupName? (c :: tl)).map fun (name, rest) => (.group true (some name) ignoreCase, rest)
  | '?' :: tl =>
    let flags := tl.takeWhile fun c => !endsFlags c
    match tl.dropWhile fun c => !endsFlags c with
    | ':' :: rest =>
      if areFlags flags then some (.group false none (ignoresCase ignoreCase flags), rest) else none
    | ')' :: rest =>
      if areFlags flags ∧ flags ≠ [] then some (.modes (ignoresCase ignoreCase flags), rest)
      else none
    | _ => none
  | _ => some (.group true none ignoreCase, cs)

/-- What has been read of a group, or of the whole expression: the complete options and the parts of
the next one, both with the latest first. -/
structure Level where
  ignoreCase : Bool
  options : List Pattern
  parts : List Pattern

namespace Level

/-- A level of which nothing has been read. -/
def start (ignoreCase : Bool) : Level := ⟨ignoreCase, [], []⟩

/-- The level with one more part. -/
def push (l : Level) (part : Pattern) : Level := { l with parts := part :: l.parts }

/-- The level after a bar. -/
def bar (l : Level) : Level :=
  { l with options := ofParts l.parts.reverse :: l.options, parts := [] }

/-- All that has been read of a level. -/
def inside (l : Level) : Pattern := ofOptions l.bar.options.reverse

/-- Repeats the last part. There has to be one, and modes cannot be repeated. -/
def repeatLast? (l : Level) (times : Times) : Option Level :=
  match l.parts with
  | [] => none
  | .modes :: _ => none
  | part :: parts => some { l with parts := .repetition times part :: parts }

/-- A character in the mode of the level. -/
def char (l : Level) (c : Char) : Pattern := .chars (Class.inMode l.ignoreCase (.single c))

/-- What an escape stands for in the mode of the level. -/
def item (l : Level) : Item → Pattern
  | .char c => l.char c
  | .set s => .chars s
  | .assertion kind => .assertion kind

end Level

/-- How far an expression has been read: the innermost level, the groups that are open with the
level around each, the innermost first, and the group names that are taken. -/
structure State where
  level : Level
  outer : List (Bool × Level)
  names : List (List Char)

namespace State

/-- Nothing has been read. -/
def start : State := ⟨.start false, [], []⟩

/-- The state with one more part. -/
def push (s : State) (part : Pattern) : State := { s with level := s.level.push part }

/-- The state after an opening parenthesis. A group name may be given once only. -/
def enter? (s : State) : Opening → Option State
  | .modes ignoreCase => some { s with level := { s.level.push .modes with ignoreCase } }
  | .group capturing none ignoreCase =>
    some { s with level := .start ignoreCase, outer := (capturing, s.level) :: s.outer }
  | .group capturing (some name) ignoreCase =>
    if s.names.contains name then none
    else some ⟨.start ignoreCase, (capturing, s.level) :: s.outer, name :: s.names⟩

/-- The state after a closing parenthesis. -/
def leave? (s : State) : Option State :=
  match s.outer with
  | [] => none
  | (capturing, level) :: outer =>
    some { s with level := level.push (.group capturing s.level.inside), outer }

/-- The dot stands for every character but the end of a line. -/
def dot : Text.CharSet := Text.CharSet.complement (.single '\n')

/-- Takes one element of an expression off the text. -/
def step? (s : State) (cs : List Char) : Option (State × List Char) :=
  match cs with
  | [] => none
  | '(' :: tl =>
    (opening? s.level.ignoreCase tl).bind fun (o, rest) => (s.enter? o).map (·, rest)
  | ')' :: tl => s.leave?.map (·, tl)
  | '|' :: tl => some ({ s with level := s.level.bar }, tl)
  | '[' :: tl =>
    (Class.read? s.level.ignoreCase tl).map fun (c, rest) => (s.push (.bracketed c), rest)
  | '\\' :: tl => (escape? tl).map fun (item, rest) => (s.push (s.level.item item), rest)
  | '^' :: tl => some (s.push (.assertion .textStart), tl)
  | '$' :: tl => some (s.push (.assertion .textEnd), tl)
  | '.' :: tl => some (s.push (.chars dot), tl)
  | c :: tl =>
    if c = '*' ∨ c = '+' ∨ c = '?' ∨ c = '{' then
      (times? cs).bind fun (times, rest) =>
        (s.level.repeatLast? times).map fun level => ({ s with level }, rest)
    else some (s.push (s.level.char c), tl)

/-- Reads an expression to its end, where no group may be open. -/
def readFrom? : Nat → State → List Char → Option Pattern
  | _, s, [] => if s.outer.isEmpty then some s.level.inside else none
  | 0, _, _ => none
  | fuel + 1, s, cs => (s.step? cs).bind fun (s, rest) => readFrom? fuel s rest

end State

/-- The expression that a text stands for. Every element takes a character at least, so the length
of the text bounds the steps. -/
def read? (text : String) : Option Pattern :=
  State.readFrom? text.length .start text.toList

end Tickscript.Pattern
