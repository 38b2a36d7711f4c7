import Tickscript.Token

/-!
# Operators

Binary operators with the precedence that section 4.4 of the specification gives them, unary
operators, and the four ways to call a function (section 10.4).
-/

namespace Tickscript

/-- An operator between two operands. -/
inductive BinaryOp where
  | equal | notEqual | lessThan | greaterThan | lessEqual | greaterEqual
  | regexMatch | regexNotMatch
  | add | subtract | multiply | divide | modulo
  | and | or
deriving Repr, DecidableEq

namespace BinaryOp

/-- How tightly an operator binds its operands: the greater, the tighter. -/
def precedence : BinaryOp → Nat
  | or => 1
  | and => 2
  | equal | notEqual | regexMatch | regexNotMatch => 3
  | lessThan | greaterThan | lessEqual | greaterEqual => 4
  | add | subtract => 5
  | multiply | divide | modulo => 6

/-- The operator that a token of this kind is between two operands. -/
def ofKind? : Kind → Option BinaryOp
  | .eqEq => some equal
  | .notEq => some notEqual
  | .lt => some lessThan
  | .gt => some greaterThan
  | .ltEq => some lessEqual
  | .gtEq => some greaterEqual
  | .regexEq => some regexMatch
  | .regexNotEq => some regexNotMatch
  | .plus => some add
  | .minus => some subtract
  | .star => some multiply
  | .slash => some divide
  | .percent => some modulo
  | .and => some and
  | .or => some or
  | _ => none

/-- How the operator is written. -/
def symbol : BinaryOp → String
  | equal => "=="
  | notEqual => "!="
  | lessThan => "<"
  | greaterThan => ">"
  | lessEqual => "<="
  | greaterEqual => ">="
  | regexMatch => "=~"
  | regexNotMatch => "!~"
  | add => "+"
  | subtract => "-"
  | multiply => "*"
  | divide => "/"
  | modulo => "%"
  | and => "AND"
  | or => "OR"

end BinaryOp

/-- An operator in front of its operand. -/
inductive UnaryOp where
  | negate | not
deriving Repr, DecidableEq

namespace UnaryOp

/-- The operator that a token of this kind is in front of an operand. -/
def ofKind? : Kind → Option UnaryOp
  | .minus => some negate
  | .not => some not
  | _ => none

/-- How the operator is written. -/
def symbol : UnaryOp → String
  | negate => "-"
  | not => "!"

end UnaryOp

/-- How a function is called: on its own, or on what stands to the left, as a node of a pipeline,
as a property of a node, or as a function defined by the user. -/
inductive CallKind where
  | global | chain | property | dynamic
deriving Repr, DecidableEq

namespace CallKind

/-- The kind of call that a token introduces after an operand. -/
def ofKind? : Kind → Option CallKind
  | .pipe => some chain
  | .dot => some property
  | .atSign => some dynamic
  | _ => none

/-- The mark in front of the name. -/
def mark : CallKind → String
  | global => ""
  | chain => "|"
  | property => "."
  | dynamic => "@"

end CallKind

end Tickscript
