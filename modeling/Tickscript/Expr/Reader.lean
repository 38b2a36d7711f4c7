import Tickscript.Expr
import Tickscript.Literal.Quote
import Tickscript.Literal.Regex
import Tickscript.Token.Cursor

/-!
# Reading expressions

The productions from `Expression` to `Primary` of the grammar in sections 4.4 and 10.4 of the
specification. Operands are read from left to right and operators by precedence climbing: an operand
takes to its right the operators that bind at least as tightly as a given minimum, and operators of
equal precedence group to the left.

Every operand and every operator that is folded into a tree uses up one level of a *budget*, and a
reader without budget fails (the cap on nesting in section 10.4), so that no input makes the
reading, or anything done with the tree later, nest without bound. The budget is also what the
recursion descends on. Loops over the elements of a list or the calls of a chain take a token in
each round, so the number of tokens left bounds their rounds.

Only operands and operators nest. What stands between them, from `elements` to `primary`, is written
over any monad that can run readers, with the reader of the expressions inside as an argument.
-/

namespace Tickscript

/-- The number of levels that an expression may nest. -/
def maxNesting : Nat := 128

namespace Expr

section Grammar

variable {m : Type → Type} [Monad m] [MonadLiftT Reader m]

/-- Expressions between commas, up to and including a token of kind `close`. -/
def elements (element : m Expr) (close : Kind) : Nat → m (List Expr)
  | 0 => Reader.fail close.describe
  | rounds + 1 => do
    let e ← element
    if (← Reader.peek) = .comma then
      let _ ← Reader.take
      let es ← elements element close rounds
      return e :: es
    else
      let _ ← Reader.expect close
      return [e]

/-- The arguments of a call or the elements of a list, up to and including a token of kind
`close`. -/
def arguments (element : m Expr) (close : Kind) : m (List Expr) := do
  if (← Reader.peek) = close then
    let _ ← Reader.take
    return []
  else
    elements element close (← Reader.rounds)

/-- The arguments of a call with their parentheses. -/
def callArguments (element : m Expr) : m (List Expr) := do
  let _ ← Reader.expect .lParen
  arguments element .rParen

/-- The calls that follow the source of a chain. -/
def calls (element : m Expr) : Nat → m (List Call)
  | 0 => return []
  | rounds + 1 => do
    match CallKind.ofKind? (← Reader.peek) with
    | none => return []
    | some kind =>
      let mark ← Reader.take
      let name ← Reader.expect .identifier
      let args ← callArguments element
      let cs ← calls element rounds
      return .mk (.ofToken mark) kind name.text args :: cs

/-- A name and the calls that follow it. A name without calls is a variable, unless it is a
keyword; the comment above a chain belongs to the chain as a whole. -/
def chainFrom (element : m Expr) (source : Token) (keyword : Bool) : m Expr := do
  let cs ← calls element (← Reader.rounds)
  if cs.isEmpty && !keyword then return .identifier (.ofToken source) source.text
  else return .chain (.ofToken source) ⟨source.text, ⟨source.position, none⟩⟩ cs

/-- An operand without operators: a literal, a reference, a list, a lambda, an expression in
parentheses, a call or a chain. -/
def primary [Regex.Engine] (expression : m Expr) : m Expr := do
  match ← Reader.peek with
  | .number =>
    let t ← Reader.take
    return .number (.ofToken t) (← Reader.literal t.position (Number.read t.text))
  | .duration =>
    let t ← Reader.take
    return .duration (.ofToken t) (← Reader.literal t.position (Duration.read t.text))
  | .string =>
    let t ← Reader.take
    let value ← Reader.literal t.position (Quote.readString t.text)
    return .string (.ofToken t) value (Quote.triple.isPrefixOf t.text.toList)
  | .reference =>
    let t ← Reader.take
    return .reference (.ofToken t) (← Reader.literal t.position (Quote.readReference t.text))
  | .regex =>
    let t ← Reader.take
    return .regex (.ofToken t) (← Reader.literal t.position (Regex.read t.text))
  | .boolean =>
    let t ← Reader.take
    return .bool (.ofToken t) (t.text == "TRUE")
  | .star =>
    let t ← Reader.take
    return .star (.ofToken t)
  | .lBracket =>
    let t ← Reader.take
    return .list (.ofToken t) (← arguments expression .rBracket)
  | .lambda =>
    let t ← Reader.take
    let _ ← Reader.expect .colon
    return .lambda (.ofToken t) (← expression)
  | .lParen =>
    let t ← Reader.take
    let e ← expression
    let _ ← Reader.expect .rParen
    let e := if e.comment.isNone then e.withComment t.comment else e
    return e.parenthesize
  | .identifier =>
    let t ← Reader.take
    if (← Reader.peek) = .lParen then
      let args ← callArguments expression
      return .function (.mk (.ofToken t) .global t.text args)
    else chainFrom expression t false
  | .stream =>
    let t ← Reader.take
    chainFrom expression t true
  | .batch =>
    let t ← Reader.take
    chainFrom expression t true
  | _ => Reader.fail "expression"

end Grammar

/-- The origin of a binary expression: its operator, with the comment of its left operand before
the operator's own. -/
def foldedOrigin (leading : Option Comment) (operator : Token) : Origin :=
  match leading with
  | some lines => ⟨operator.position, some (lines ++ operator.comment.getD [])⟩
  | none => .ofToken operator

section Nesting

variable [Regex.Engine]

mutual

/-- An operand with the unary operators in front of it. -/
def operand : Nat → Reader Expr
  | 0 => Reader.tooDeep maxNesting
  | budget + 1 => do
    match UnaryOp.ofKind? (← Reader.peek) with
    | some op =>
      let t ← Reader.take
      return .unary (.ofToken t) op (← operand budget)
    | none => primary (do climb budget 1 (← operand budget))

/-- Folds the operators that follow `left` and bind at least as tightly as `min`. -/
def climb (budget min : Nat) (left : Expr) : Reader Expr := do
  match BinaryOp.ofKind? (← Reader.peek) with
  | none => return left
  | some op =>
    if op.precedence < min then return left
    else
      match budget with
      | 0 => Reader.tooDeep maxNesting
      | budget + 1 =>
        let t ← Reader.take
        let (leading, left) := left.takeLeadingComment
        let right ← climb budget (op.precedence + 1) (← operand budget)
        climb budget min (.binary (foldedOrigin leading t) op left right false)

end

/-- An operand and the operators after it that bind at least as tightly as `min`, within a
budget. -/
def operation (budget min : Nat) : Reader Expr := do
  climb budget min (← operand budget)

/-- An expression, within the whole budget. -/
def reader : Reader Expr := operation maxNesting 1

end Nesting

end Expr

end Tickscript
