import Tickscript.Pattern.Class
import Tickscript.Pattern.Escape

/-!
# Regular expressions

A script may hold regular expressions, and one that does not compile makes the script malformed.
What the library says of scripts it says for every engine that compiles them (`Regex.Engine`). This
is the engine of the command line (`Pattern.engine`). It matches no text: what counts is which texts
are expressions. A `Pattern` is an expression as it was written. `Pattern.read?` reads one, and an
expression is well formed if it can be read, is not nested too deeply and does not ask for too much
memory (`Pattern.isWellFormed`).

Look-around and back-references do not exist in this dialect. Two of its features are left out here,
and expressions with them are refused: classes of characters by property, as in `\pL` and
`\p{Greek}`, and the mode in which blanks and comments are skipped, `(?x)`. How much memory an
automaton takes is an estimate, exact up to the sharing of equal parts.
-/

namespace Tickscript

/-- How often something is repeated: a least count, a largest one unless there is no end, and
whether few repetitions are preferred to many. -/
structure Pattern.Times where
  least : Nat
  most : Option Nat
  isLazy : Bool
deriving Repr, DecidableEq

/-- A regular expression. A switch of modes, as in `(?i)`, takes part in a sequence but has no text
of its own; its effect is seen in the sets of the characters after it. -/
inductive Pattern where
  | empty
  | modes
  | chars (set : Text.CharSet)
  | bracketed (inside : Pattern.Class)
  | assertion (kind : Pattern.Assertion)
  | group (capturing : Bool) (inside : Pattern)
  | repetition (times : Pattern.Times) (inside : Pattern)
  | sequence (parts : List Pattern)
  | choice (options : List Pattern)
deriving Repr

namespace Pattern

/-- The expression of some parts in a row. One part stands for itself. -/
def ofParts : List Pattern → Pattern
  | [] => empty
  | [part] => part
  | parts => sequence parts

/-- The expression that offers a choice. One option stands for itself. -/
def ofOptions : List Pattern → Pattern
  | [] => empty
  | [option] => option
  | options => choice options

mutual

/-- How deeply an expression is nested. Groups, repetitions, sequences, choices and the levels of a
class each add one. -/
def depth : Pattern → Nat
  | empty => 0
  | modes => 0
  | chars _ => 0
  | bracketed inside => inside.depth
  | assertion _ => 0
  | group _ inside => inside.depth + 1
  | repetition _ inside => inside.depth + 1
  | sequence parts => maxDepth parts + 1
  | choice options => maxDepth options + 1

/-- The depth of the deepest of some expressions. -/
def maxDepth : List Pattern → Nat
  | [] => 0
  | p :: ps => max p.depth (maxDepth ps)

end

end Pattern

end Tickscript
