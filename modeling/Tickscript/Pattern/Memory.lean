import Tickscript.Pattern.Shape
import Tickscript.Text.ByteSequence

/-!
# Memory of regular expressions

An expression is matched by automata that read bytes, one from the start of the text to its end and
one backwards. Each automaton is made of *states* joined by *arcs*, which take a byte from a range,
and by *links*, which take nothing. `Shape.memory` counts the bytes that they occupy, so that a
repetition with a large count can be refused although its text is short.
-/

namespace Tickscript.Pattern

/-- Which way an automaton reads. -/
inductive Direction where
  | forward
  | backward
deriving Repr, DecidableEq

namespace Memory

/-- The bytes of a state. -/
def state : Nat := 32

/-- The bytes of an arc, in a state that has a list of them. -/
def arc : Nat := 8

/-- The bytes of a link, in a state that has a list of them. -/
def link : Nat := 4

/-- The automaton for one character of a set. ASCII takes a state with an arc for each range. Other
sets are read byte by byte: forward, states from which the same is left to be read are one;
backward, sequences that start alike share the states of their start. -/
def ofSet (d : Direction) (s : Text.CharSet) : Nat :=
  if s.isAscii then 2 * state + arc * s.length
  else
    let sequences := Text.ByteSequence.ofSet s
    match d with
    | .forward =>
      let points := (Text.ByteSequence.remainders Text.ByteSequence.maxLength sequences).eraseDups
      (points.map fun ss =>
        state + arc * (Text.ByteSequence.branches ss).length).foldl (· + ·) state
    | .backward =>
      2 * state + state * Text.ByteSequence.countStarts Text.ByteSequence.maxLength sequences +
        link * sequences.length

/-- The bytes of a text in the order in which an automaton reads them. -/
def bytes (d : Direction) (cs : List Char) : List UInt8 :=
  let bs := cs.flatMap String.utf8EncodeChar
  match d with
  | .forward => bs
  | .backward => bs.reverse

/-- Cuts a list of byte strings at those that are empty. -/
def cutAtEmpty : List (List UInt8) → List (List (List UInt8))
  | [] => [[]]
  | [] :: ts => [] :: cutAtEmpty ts
  | t :: ts =>
    match cutAtEmpty ts with
    | [] => [[t]]
    | run :: runs => (t :: run) :: runs

/-- What follows the byte `b` in those of the strings that start with it. -/
def after (b : UInt8) (run : List (List UInt8)) : List (List UInt8) :=
  run.filterMap fun t => if t.head? = some b then some t.tail else none

/-- The tree that reads one of several byte strings, where earlier ones are preferred: a string that
ends parts the strings after it from those before it. No string is as long as `fuel`. -/
def ofTree : Nat → List (List UInt8) → Nat
  | 0, _ => 0
  | fuel + 1, texts =>
    let runs := cutAtEmpty texts
    let ofRun (run : List (List UInt8)) : Nat :=
      let starts := (run.filterMap List.head?).eraseDups
      let rests := (starts.map (after · run)).filter fun rest => !rest.all List.isEmpty
      if starts = [] then 0
      else
        link + state + (if starts.length = 1 then 0 else arc * starts.length) +
          (rests.map (ofTree fuel)).sum
    state + link * (runs.length - 1) + (runs.map ofRun).sum

/-- The automaton for one of several texts. -/
def ofTexts (d : Direction) (texts : List (List Char)) : Nat :=
  let strings := texts.map (bytes d)
  state + ofTree ((strings.map List.length).foldl (· + ·) 1) strings

/-- The automaton for a repetition of what takes `inside` bytes. What may match nothing needs two
more states if it may be repeated without end. -/
def ofRepetition (t : Times) (consumes : Bool) (inside : Nat) : Nat :=
  match t.most with
  | none =>
    if t.least = 0 ∧ !consumes then inside + 3 * state + 4 * link
    else max t.least 1 * inside + state + 2 * link
  | some most =>
    if t.least = most then most * inside
    else if most = 1 then inside + 2 * state + 2 * link
    else
      (if t.least = 0 then state else t.least * inside) + state +
        (most - t.least) * (inside + state + 2 * link)

end Memory

namespace Shape

mutual

/-- The bytes that the automaton of a shape occupies. Captures are kept by the forward one only. -/
def memory (d : Direction) : Shape → Nat
  | nothing => Memory.state
  | text cs => Memory.state * (cs.map Char.utf8Size).sum
  | set s => Memory.ofSet d s
  | assertion _ => Memory.state
  | capture inside => (if d = .forward then 2 * Memory.state else 0) + inside.memory d
  | repetition times inside => Memory.ofRepetition times inside.consumes (inside.memory d)
  | sequence parts => totalMemory d parts
  | choice options =>
    match options.mapM text? with
    | some texts => Memory.ofTexts d texts
    | none => 2 * Memory.state + Memory.link * options.length + totalMemory d options

/-- The bytes that the automata of some shapes occupy. -/
def totalMemory (d : Direction) : List Shape → Nat
  | [] => 0
  | s :: ss => s.memory d + totalMemory d ss

end

mutual

/-- Whether every match begins where the automaton begins to read: at the start of the text, or at
its end for the backward one. -/
def isAnchored (d : Direction) : Shape → Bool
  | assertion .textStart => d = .forward
  | assertion .textEnd => d = .backward
  | capture inside => inside.isAnchored d
  | repetition times inside => 0 < times.least && inside.isAnchored d
  | sequence parts => isRowAnchored d parts
  | choice options => areAnchored d options
  | _ => false

/-- Whether a row is anchored: by its first part, or by one that only parts of no width come before.
Backward, a row is read from its end. -/
def isRowAnchored (d : Direction) : List Shape → Bool
  | [] => false
  | s :: ss =>
    match d with
    | .forward => s.isAnchored d || (s.isZeroWidth && isRowAnchored d ss)
    | .backward => isRowAnchored d ss || (areZeroWidth ss && s.isAnchored d)

/-- Whether each of some shapes is anchored. -/
def areAnchored (d : Direction) : List Shape → Bool
  | [] => true
  | s :: ss => s.isAnchored d && areAnchored d ss

end

/-- The bytes of the whole automaton. Before the match it skips bytes, unless the match is anchored;
the forward one captures the match; and the last state is reached when there is a match. -/
def automatonMemory (d : Direction) (s : Shape) : Nat :=
  let skip :=
    if s.isAnchored d then Memory.state
    else 3 * Memory.state + Memory.arc + 2 * Memory.link
  skip + (capture s).memory d + Memory.state

end Shape

end Tickscript.Pattern
