import Tickscript.Proofs.Derivation

/-!
# The grammar, one level per precedence

A second reader of programs, which follows the grammar in sections 4.4 and 10.4 of the specification
in its levels: one nonterminal for each level of operators, from `OR` down to the unary operators,
where a binary level is `next { op next }`, read greedily and folded to the left. It knows no budget
and no comments. A level lists the tokens of its operators, so nothing here depends on numbers for
precedences.

What the two readers are to agree on is how operators and operands are put together. What is not
nested is the same in both: how tokens are taken and expected, what literals stand for, and how
errors are reported (`Reader.take`, `Reader.expect`, `Reader.literal`, `Reader.fail`).

Nesting is bounded by the tokens ahead, because whatever nests takes a token first; with nothing
ahead there is no expression to read.
-/

namespace Tickscript

/-! ## Trees without comments -/

/-- The origin without its comment. -/
def Origin.bare (o : Origin) : Origin := ⟨o.position, none⟩

mutual

/-- The expression without any comment. -/
def Expr.bare : Expr → Expr
  | .number o v => .number o.bare v
  | .string o v verbatim => .string o.bare v verbatim
  | .duration o m => .duration o.bare m
  | .regex o p => .regex o.bare p
  | .bool o v => .bool o.bare v
  | .star o => .star o.bare
  | .list o es => .list o.bare (Expr.bareList es)
  | .identifier o n => .identifier o.bare n
  | .reference o n => .reference o.bare n
  | .lambda o b => .lambda o.bare b.bare
  | .unary o op e => .unary o.bare op e.bare
  | .binary o op l r p => .binary o.bare op l.bare r.bare p
  | .function c => .function c.bare
  | .chain o s cs => .chain o.bare ⟨s.name, s.origin.bare⟩ (Call.bareList cs)

/-- The call without any comment. -/
def Call.bare : Call → Call
  | .mk o k n as => .mk o.bare k n (Expr.bareList as)

/-- The expressions without any comment. -/
def Expr.bareList : List Expr → List Expr
  | [] => []
  | e :: es => e.bare :: Expr.bareList es

/-- The calls without any comment. -/
def Call.bareList : List Call → List Call
  | [] => []
  | c :: cs => c.bare :: Call.bareList cs

end

attribute [simp] Expr.bare Call.bare Expr.bareList Call.bareList

/-- What a variable stands for, without any comment. -/
def Binding.bare : Binding → Binding
  | value e => .value e.bare
  | template type => .template type

/-- The statement without any comment. -/
def Statement.bare : Statement → Statement
  | declare o n b => .declare o.bare ⟨n.name, n.origin.bare⟩ b.bare
  | expr e => .expr e.bare

/-- The `dbrp` line without its comment. -/
def DbrpLine.bare (d : DbrpLine) : DbrpLine := ⟨d.database, d.retentionPolicy, d.origin.bare⟩

/-- The program without any comment. -/
def Program.bare (p : Program) : Program :=
  ⟨p.dbrps.map DbrpLine.bare, p.statements.map Statement.bare, none⟩

end Tickscript

namespace Tickscript.Layered

/-- Where a node that begins with `t` was read from, without a comment. -/
def place (t : Token) : Origin := ⟨t.position, none⟩

/-! ## Operators -/

/-- The tokens of one level and the operators they are. -/
abbrev Level := List (Kind × BinaryOp)

def disjunctive : Level := [(.or, .or)]

def conjunctive : Level := [(.and, .and)]

def equational : Level :=
  [(.eqEq, .equal), (.notEq, .notEqual), (.regexEq, .regexMatch), (.regexNotEq, .regexNotMatch)]

def relational : Level :=
  [(.lt, .lessThan), (.gt, .greaterThan), (.ltEq, .lessEqual), (.gtEq, .greaterEqual)]

def additive : Level := [(.plus, .add), (.minus, .subtract)]

def multiplicative : Level := [(.star, .multiply), (.slash, .divide), (.percent, .modulo)]

/-- The tokens of the unary operators. -/
def prefixes : List (Kind × UnaryOp) := [(.minus, .negate), (.not, .not)]

/-- The tokens that introduce a call after an operand. -/
def marks : List (Kind × CallKind) := [(.pipe, .chain), (.dot, .property), (.atSign, .dynamic)]

/-- `{ op next }`, folded to the left onto what was read before. -/
def foldMany (level : Level) (next : Reader Expr) : Nat → Expr → Reader Expr
  | 0, left => return left
  | rounds + 1, left => do
    match level.lookup (← Reader.peek) with
    | none => return left
    | some op =>
      let t ← Reader.take
      let right ← next
      foldMany level next rounds (.binary (place t) op left right false)

/-- `next { op next }` -/
def binaryLevel (level : Level) (next : Reader Expr) : Reader Expr := do
  let left ← next
  foldMany level next (← Reader.rounds) left

/-- An expression over a reader of its unary operands, level by level. -/
def expressionOver (unary : Reader Expr) : Reader Expr :=
  let product := binaryLevel multiplicative unary
  let sum := binaryLevel additive product
  let relation := binaryLevel relational sum
  let equation := binaryLevel equational relation
  let conjunction := binaryLevel conjunctive equation
  binaryLevel disjunctive conjunction

/-! ## Operands -/

section

variable (expression : Reader Expr)

/-- `{ "," Expression }` -/
def moreArguments : Nat → Reader (List Expr)
  | 0 => return []
  | rounds + 1 => do
    if (← Reader.peek) = .comma then
      let _ ← Reader.take
      let e ← expression
      let es ← moreArguments rounds
      return e :: es
    else return []

/-- `[ Expression { "," Expression } ] close` -/
def arguments (close : Kind) : Reader (List Expr) := do
  if (← Reader.peek) = close then
    let _ ← Reader.take
    return []
  else
    let e ← expression
    let es ← moreArguments expression (← Reader.rounds)
    let _ ← Reader.expect close
    return e :: es

/-- `{ ("|" | "." | "@") Identifier "(" [ArgList] ")" }` -/
def calls : Nat → Reader (List Call)
  | 0 => return []
  | rounds + 1 => do
    match marks.lookup (← Reader.peek) with
    | none => return []
    | some kind =>
      let t ← Reader.take
      let name ← Reader.expect .identifier
      let _ ← Reader.expect .lParen
      let args ← arguments expression .rParen
      let cs ← calls rounds
      return .mk (place t) kind name.text args :: cs

/-- What follows a source: its calls. Only a source that is a keyword stands without any. -/
def chain (source : Token) (keyword : Bool) : Reader Expr := do
  match ← calls expression (← Reader.rounds), keyword with
  | [], false => return .identifier (place source) source.text
  | cs, _ => return .chain (place source) ⟨source.text, place source⟩ cs

/-- A literal token and what it stands for. -/
def literal {α : Type} (value : String → Except LiteralError α) (node : Origin → α → Expr) :
    Reader Expr := do
  let t ← Reader.take
  return node (place t) (← Reader.literal t.position (value t.text))

/-- A binary expression directly inside parentheses is marked, and nothing else is. -/
def parenthesized : Expr → Expr
  | .binary o op l r _ => .binary o op l r true
  | e => e

/-- `Primary` -/
def primary [Regex.Engine] : Reader Expr := do
  match ← Reader.peek with
  | .number => literal Number.read .number
  | .duration => literal Duration.read .duration
  | .reference => literal Quote.readReference .reference
  | .regex => literal Regex.read .regex
  | .string =>
    let t ← Reader.take
    let v ← Reader.literal t.position (Quote.readString t.text)
    return .string (place t) v ("'''".toList.isPrefixOf t.text.toList)
  | .boolean =>
    let t ← Reader.take
    return .bool (place t) (t.text == "TRUE")
  | .star =>
    let t ← Reader.take
    return .star (place t)
  | .lBracket =>
    let t ← Reader.take
    let es ← arguments expression .rBracket
    return .list (place t) es
  | .lambda =>
    let t ← Reader.take
    let _ ← Reader.expect .colon
    let e ← expression
    return .lambda (place t) e
  | .lParen =>
    let _ ← Reader.take
    let e ← expression
    let _ ← Reader.expect .rParen
    return parenthesized e
  | .identifier =>
    let t ← Reader.take
    if (← Reader.peek) = .lParen then
      let _ ← Reader.take
      let args ← arguments expression .rParen
      return .function (.mk (place t) .global t.text args)
    else chain expression t false
  | .stream | .batch =>
    let t ← Reader.take
    chain expression t true
  | _ => Reader.fail "expression"

end

variable [Regex.Engine]

/-- `Unary`, nested no deeper than `fuel`. -/
def unary : Nat → Reader Expr
  | 0 => Reader.fail "expression"
  | fuel + 1 => do
    match prefixes.lookup (← Reader.peek) with
    | some op =>
      let t ← Reader.take
      let e ← unary fuel
      return .unary (place t) op e
    | none => primary (expressionOver (unary fuel))

/-- `Expression` -/
def expression : Reader Expr := fun c => expressionOver (unary c.left) c

/-! ## Programs -/

/-- `"dbrp" StringLiteral "." StringLiteral`, where both may be references -/
def dbrpName : Reader String := do
  match ← Reader.peek with
  | .reference =>
    let t ← Reader.take
    Reader.literal t.position (Quote.readReference t.text)
  | .string =>
    let t ← Reader.take
    Reader.literal t.position (Quote.readString t.text)
  | _ => Reader.fail "quoted database or retention policy name"

@[inherit_doc dbrpName]
def dbrp : Reader DbrpLine := do
  let t ← Reader.expect .dbrp
  let database ← dbrpName
  let _ ← Reader.expect .dot
  let retentionPolicy ← dbrpName
  return ⟨database, retentionPolicy, place t⟩

/-- `{DBRPDecl}` -/
def dbrps : Nat → Reader (List DbrpLine)
  | 0 => return []
  | rounds + 1 => do
    if (← Reader.peek) = .dbrp then
      let d ← dbrp
      let ds ← dbrps rounds
      return d :: ds
    else return []

/-- `"=" Expression | TypeName` -/
def binding : Reader Binding := do
  let t := (← get).current
  if t.kind = .assign then
    let _ ← Reader.take
    let e ← expression
    return .value e
  else if t.kind = .identifier ∨ t.kind = .lambda then
    match VarType.ofName? t.text with
    | some type =>
      let _ ← Reader.take
      return .template type
    | none => Reader.fail "'=' or a template type"
  else Reader.fail "'=' or a template type"

/-- `Statement` -/
def statement : Reader Statement := do
  if (← Reader.peek) = .var then
    let t ← Reader.take
    let name ← Reader.expect .identifier
    let b ← binding
    return .declare (place t) ⟨name.text, place name⟩ b
  else
    let e ← expression
    return .expr e

/-- `{Statement}`, up to the end of input -/
def statements : Nat → Reader (List Statement)
  | 0 => return []
  | rounds + 1 => do
    if (← Reader.peek) = .eof then return []
    else
      let s ← statement
      let ss ← statements rounds
      return s :: ss

/-- `Program` -/
def program : Reader Program := do
  let ds ← dbrps (← Reader.rounds)
  let ss ← statements (← Reader.rounds)
  return ⟨ds, ss, none⟩

/-- The program that a list of tokens is. -/
def ofTokens (ts : List Token) : Except SyntaxError Program :=
  match program (.ofList ts) with
  | .ok p _ => .ok p
  | .error e _ => .error e

end Tickscript.Layered
