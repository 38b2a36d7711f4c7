import Tickscript.Expr.Reader
import Tickscript.Program
import Tickscript.Token.Lexer

/-!
# Reading programs

The productions from `Program` to `VarDecl` of the grammar in sections 4.4 and 10.4 of the
specification: `dbrp` lines come first, then statements without separators, up to the end of input.
Reading stops at the first fault.

How expressions are read is left open, and so is the monad, as long as it can run readers;
`Program.reader` reads them by `Expr.reader`.
-/

namespace Tickscript

namespace DbrpLine

/-- A database or a retention policy: a reference or a string. -/
def name : Reader String := do
  match ← Reader.peek with
  | .reference =>
    let t ← Reader.take
    Reader.literal t.position (Quote.readReference t.text)
  | .string =>
    let t ← Reader.take
    Reader.literal t.position (Quote.readString t.text)
  | _ => Reader.fail "quoted database or retention policy name"

/-- A `dbrp` line, of which the keyword is the current token. -/
def reader : Reader DbrpLine := do
  let t ← Reader.take
  let database ← name
  let _ ← Reader.expect .dot
  let retentionPolicy ← name
  return ⟨database, retentionPolicy, .ofToken t⟩

/-- The `dbrp` lines at the front. -/
def many : Nat → Reader (List DbrpLine)
  | 0 => return []
  | rounds + 1 => do
    if (← Reader.peek) = .dbrp then
      let d ← reader
      let ds ← many rounds
      return d :: ds
    else return []

end DbrpLine

namespace Statement

/-- The type that the current token names. Of the keywords only `lambda` is a type. -/
def typeName? (t : Token) : Option VarType :=
  match t.kind with
  | .identifier => VarType.ofName? t.text
  | .lambda => VarType.ofName? t.text
  | _ => none

section Grammar

variable {m : Type → Type} [Monad m] [MonadLiftT Reader m] (expression : m Expr)

/-- What a declared variable stands for. -/
def binding : m Binding := do
  if (← Reader.peek) = .assign then
    let _ ← Reader.take
    return .value (← expression)
  else
    match typeName? (← Reader.current) with
    | some type =>
      let _ ← Reader.take
      return .template type
    | none => Reader.fail "'=' or a template type"

/-- A declaration, of which the keyword is the current token. -/
def declaration : m Statement := do
  let t ← Reader.take
  let name ← Reader.expect .identifier
  return .declare (.ofToken t) ⟨name.text, ⟨name.position, none⟩⟩ (← binding expression)

/-- A statement. -/
def readerOver : m Statement := do
  if (← Reader.peek) = .var then declaration expression
  else return .expr (← expression)

/-- Statements up to the end of input. -/
def many : Nat → m (List Statement)
  | 0 => return []
  | rounds + 1 => do
    if (← Reader.peek) = .eof then return []
    else
      let s ← readerOver expression
      let ss ← many rounds
      return s :: ss

end Grammar

/-- A statement with the expressions of the language. -/
abbrev reader [Regex.Engine] : Reader Statement := readerOver Expr.reader

end Statement

namespace Program

/-- Takes the comment off the current token. -/
def trailing : Reader (Option Comment) := fun c =>
  .ok c.current.comment { c with current := { c.current with comment := none } }

/-- A program, over a reader of expressions. -/
def readerOver {m : Type → Type} [Monad m] [MonadLiftT Reader m] (expression : m Expr) :
    m Program := do
  let dbrps ← DbrpLine.many (← Reader.rounds)
  let statements ← Statement.many expression (← Reader.rounds)
  return ⟨dbrps, statements, ← trailing⟩

variable [Regex.Engine]

/-- A program. -/
abbrev reader : Reader Program := readerOver Expr.reader

/-- The program that a list of tokens is. -/
def ofTokens (ts : List Token) : Except SyntaxError Program :=
  match reader (.ofList ts) with
  | .ok p _ => .ok p
  | .error e _ => .error e

/-- The program that a source is. -/
def parse (source : String) : Except SyntaxError Program := ofTokens (tokenize source)

end Program

end Tickscript
