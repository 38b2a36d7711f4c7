import Tickscript.Literal.Regex
import Tickscript.Pattern.Memory
import Tickscript.Pattern.Reader

/-!
# Limits of regular expressions

An expression that can be read is still refused if it is nested too deeply or if one of its automata
would take too much memory.
-/

namespace Tickscript.Pattern

/-- How deeply an expression may be nested. -/
def depthLimit : Nat := 250

/-- How many bytes an automaton may occupy. -/
def memoryLimit : Nat := 10 * Nat.pow 2 20

/-- Whether an expression keeps the limits. -/
def isWithinLimits (p : Pattern) : Bool :=
  p.depth ≤ depthLimit &&
    [Direction.forward, Direction.backward].all fun d => p.shape.automatonMemory d ≤ memoryLimit

/-- Whether a text is a regular expression. -/
def isWellFormed (text : String) : Bool :=
  (read? text).any isWithinLimits

/-- Compiles the regular expressions of this dialect. -/
@[reducible] def engine : Regex.Engine where
  compile text := if isWellFormed text then .ok () else .error "regex parse error"

end Tickscript.Pattern
