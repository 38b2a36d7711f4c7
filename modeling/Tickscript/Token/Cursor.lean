import Tickscript.Literal.Error
import Tickscript.Token

/-!
# Reading a list of tokens

How the parser of section 4.4 of the specification sees tokens: one at a time. A cursor stands on
one token with the others before it, and behind the last one it goes on with ends of input. A reader
moves a cursor and gives a value or an error; after an error the cursor stays where the reader
stopped.
-/

namespace Tickscript

/-- Why a list of tokens is no program. -/
inductive SyntaxFault where
  | unexpected (found expected : String)
  | literal (cause : LiteralError)
  | malformed (message : String)
  | tooDeep (limit : Nat)
deriving Repr, DecidableEq

/-- The wording of a fault. -/
def SyntaxFault.message : SyntaxFault → String
  | unexpected found expected => "unexpected " ++ found ++ ", expected " ++ expected
  | literal cause => cause.message
  | malformed message => message
  | tooDeep limit => "expression nested deeper than " ++ toString limit ++ " levels"

/-- A fault and the token at which it was found. -/
structure SyntaxError where
  position : Position
  fault : SyntaxFault
deriving Repr, DecidableEq

/-- The wording of an error. -/
def SyntaxError.message (e : SyntaxError) : String :=
  e.fault.message ++ " at " ++ e.position.describe

/-- A place in a list of tokens. -/
structure Cursor where
  current : Token
  rest : List Token
deriving Repr, DecidableEq

namespace Cursor

/-- On the first token of a list. -/
def ofList : List Token → Cursor
  | [] => ⟨.endAt .start, []⟩
  | t :: ts => ⟨t, ts⟩

/-- On the next token. Behind the last token the input ends, at the place of the last token. -/
def advance (c : Cursor) : Cursor :=
  match c.rest with
  | [] => ⟨.endAt c.current.position, []⟩
  | t :: ts => ⟨t, ts⟩

/-- How many tokens a reader can take before the input ends, at most. -/
def size (c : Cursor) : Nat := c.rest.length + 1

/-- What is wrong if the current token is not what was expected. -/
def unexpected (c : Cursor) (expected : String) : SyntaxError :=
  let fault :=
    match c.current.kind with
    | .error => .malformed c.current.text
    | _ => .unexpected c.current.describe expected
  ⟨c.current.position, fault⟩

end Cursor

/-- A reader of tokens. -/
abbrev Reader := EStateM SyntaxError Cursor

namespace Reader

/-- The kind of the current token. -/
def peek : Reader Kind := fun c => .ok c.current.kind c

/-- The current token. -/
def current : Reader Token := fun c => .ok c.current c

/-- Takes the current token. -/
def take : Reader Token := fun c => .ok c.current c.advance

/-- Fails at the current token. -/
def fail {α : Type} (expected : String) : Reader α := fun c => .error (c.unexpected expected) c

/-- Takes the current token, which has to be of the given kind. -/
def expect (kind : Kind) : Reader Token := fun c =>
  if c.current.kind = kind then .ok c.current c.advance
  else .error (c.unexpected kind.describe) c

/-- Fails at the current token because the nesting is at its limit. -/
def tooDeep {α : Type} (limit : Nat) : Reader α := fun c =>
  .error ⟨c.current.position, .tooDeep limit⟩ c

/-- The value of a literal, which stands at `position`. -/
def literal {α : Type} (position : Position) : Except LiteralError α → Reader α
  | .ok a => fun c => .ok a c
  | .error e => fun c => .error ⟨position, .literal e⟩ c

/-- The number of tokens left bounds the rounds of a loop that takes one in each round. -/
def rounds : Reader Nat := fun c => .ok c.size c

end Reader

end Tickscript
