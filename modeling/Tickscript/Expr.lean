import Tickscript.Literal.Number
import Tickscript.Operator

/-!
# Expressions

The trees that scripts are made of: the kinds of nodes in section 3 of the specification. Every node
keeps its *origin*, the place it was read from and the comment above it, which is for messages and
layout only: `Expr.sameAs` compares two trees without it, as section 9 has it.
-/

namespace Tickscript

/-- Where a node was read from, and the comment above it. -/
structure Origin where
  position : Position
  comment : Option Comment := none
deriving Repr, DecidableEq

namespace Origin

/-- The origin of a node that begins with the token `t`. -/
def ofToken (t : Token) : Origin := ⟨t.position, t.comment⟩

instance : Inhabited Origin := ⟨⟨.start, none⟩⟩

end Origin

/-- A name and where it was read from. -/
structure Ident where
  name : String
  origin : Origin
deriving Repr, DecidableEq

mutual

/-- An expression. A duration counts microseconds; `verbatim` marks a string between triple
quotes; `parenthesized` keeps the parentheses that the source put around a binary expression. -/
inductive Expr where
  | number (origin : Origin) (value : Number)
  | string (origin : Origin) (value : String) (verbatim : Bool)
  | duration (origin : Origin) (micros : Nat)
  | regex (origin : Origin) (pattern : String)
  | bool (origin : Origin) (value : Bool)
  | star (origin : Origin)
  | list (origin : Origin) (elements : List Expr)
  | identifier (origin : Origin) (name : String)
  | reference (origin : Origin) (name : String)
  | lambda (origin : Origin) (body : Expr)
  | unary (origin : Origin) (op : UnaryOp) (operand : Expr)
  | binary (origin : Origin) (op : BinaryOp) (left right : Expr) (parenthesized : Bool)
  | function (call : Call)
  | chain (origin : Origin) (source : Ident) (calls : List Call)

/-- A call of a function. -/
inductive Call where
  | mk (origin : Origin) (kind : CallKind) (name : String) (args : List Expr)

end

namespace Call

/-- Where the call was read from. -/
def origin : Call → Origin
  | mk o _ _ _ => o

/-- How the function is called. -/
def kind : Call → CallKind
  | mk _ k _ _ => k

/-- The function's name. -/
def name : Call → String
  | mk _ _ n _ => n

/-- The arguments. -/
def args : Call → List Expr
  | mk _ _ _ as => as

end Call

namespace Expr

/-- Where the expression was read from. For a binary expression that is its operator. -/
def origin : Expr → Origin
  | number o _ => o
  | string o _ _ => o
  | duration o _ => o
  | regex o _ => o
  | bool o _ => o
  | star o => o
  | list o _ => o
  | identifier o _ => o
  | reference o _ => o
  | lambda o _ => o
  | unary o _ _ => o
  | binary o _ _ _ _ => o
  | function c => c.origin
  | chain o _ _ => o

/-- The comment above the expression. -/
def comment (e : Expr) : Option Comment := e.origin.comment

/-- The expression with another comment above it. -/
def withComment (c : Option Comment) : Expr → Expr
  | number o v => number { o with comment := c } v
  | string o v t => string { o with comment := c } v t
  | duration o m => duration { o with comment := c } m
  | regex o p => regex { o with comment := c } p
  | bool o v => bool { o with comment := c } v
  | star o => star { o with comment := c }
  | list o es => list { o with comment := c } es
  | identifier o n => identifier { o with comment := c } n
  | reference o n => reference { o with comment := c } n
  | lambda o b => lambda { o with comment := c } b
  | unary o op e => unary { o with comment := c } op e
  | binary o op l r p => binary { o with comment := c } op l r p
  | function (.mk o k n as) => function (.mk { o with comment := c } k n as)
  | chain o s cs => chain { o with comment := c } s cs

/-- Takes the comment off the front of an expression. A binary expression gives its own comment,
or else that of its left operand. -/
def takeLeadingComment : Expr → Option Comment × Expr
  | binary o op l r p =>
    match o.comment with
    | some c => (some c, binary { o with comment := none } op l r p)
    | none =>
      let (c, l) := l.takeLeadingComment
      (c, binary o op l r p)
  | e => (e.comment, e.withComment none)

/-- The expression with its parentheses kept, if it is one that shows them. -/
def parenthesize : Expr → Expr
  | binary o op l r _ => binary o op l r true
  | e => e

end Expr

mutual

/-- Whether two expressions are the same apart from origins. -/
def Expr.sameAs : Expr → Expr → Bool
  | .number _ v, .number _ w => v == w
  | .string _ v s, .string _ w t => v == w && s == t
  | .duration _ m, .duration _ n => m == n
  | .regex _ p, .regex _ q => p == q
  | .bool _ v, .bool _ w => v == w
  | .star _, .star _ => true
  | .list _ as, .list _ bs => Expr.sameList as bs
  | .identifier _ m, .identifier _ n => m == n
  | .reference _ m, .reference _ n => m == n
  | .lambda _ a, .lambda _ b => a.sameAs b
  | .unary _ p a, .unary _ q b => p == q && a.sameAs b
  | .binary _ p a b s, .binary _ q c d t => p == q && a.sameAs c && b.sameAs d && s == t
  | .function a, .function b => a.sameAs b
  | .chain _ s as, .chain _ t bs => s.name == t.name && Call.sameList as bs
  | _, _ => false

/-- Whether two calls are the same apart from origins. -/
def Call.sameAs : Call → Call → Bool
  | .mk _ k m as, .mk _ l n bs => k == l && m == n && Expr.sameList as bs

/-- Whether two lists of expressions are the same apart from origins. -/
def Expr.sameList : List Expr → List Expr → Bool
  | [], [] => true
  | a :: as, b :: bs => a.sameAs b && Expr.sameList as bs
  | _, _ => false

/-- Whether two lists of calls are the same apart from origins. -/
def Call.sameList : List Call → List Call → Bool
  | [], [] => true
  | a :: as, b :: bs => a.sameAs b && Call.sameList as bs
  | _, _ => false

end

end Tickscript
