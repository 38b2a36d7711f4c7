import Tickscript.Expr
import Tickscript.VarType

/-!
# Programs

A script as a whole: which databases and retention policies it may use, then its statements. This is
the root node of section 3 of the specification.
-/

namespace Tickscript

/-- What a declared variable stands for: the value of an expression, or a value of some type
that is filled in for each task. -/
inductive Binding where
  | value (e : Expr)
  | template (type : VarType)

/-- A statement: a declaration of a variable, or an expression. -/
inductive Statement where
  | declare (origin : Origin) (name : Ident) (binding : Binding)
  | expr (e : Expr)

namespace Statement

/-- Where the statement was read from. -/
def origin : Statement → Origin
  | declare o _ _ => o
  | expr e => e.origin

/-- Whether two statements are the same apart from origins. -/
def sameAs : Statement → Statement → Bool
  | declare _ m (.value a), declare _ n (.value b) => m.name == n.name && a.sameAs b
  | declare _ m (.template s), declare _ n (.template t) => m.name == n.name && s == t
  | expr a, expr b => a.sameAs b
  | _, _ => false

end Statement

/-- A `dbrp` line: a database and a retention policy. -/
structure DbrpLine where
  database : String
  retentionPolicy : String
  origin : Origin
deriving Repr, DecidableEq

/-- Whether two lines are the same apart from origins. -/
def DbrpLine.sameAs (a b : DbrpLine) : Bool :=
  a.database == b.database && a.retentionPolicy == b.retentionPolicy

/-- A whole script. The trailing comment is what stands behind the last statement. -/
structure Program where
  dbrps : List DbrpLine := []
  statements : List Statement := []
  trailingComment : Option Comment := none

namespace Program

/-- Whether two lists agree in length and, element by element, in `same`. -/
def allSame {α : Type} (same : α → α → Bool) : List α → List α → Bool
  | [], [] => true
  | a :: as, b :: bs => same a b && allSame same as bs
  | _, _ => false

/-- Whether two programs are the same apart from origins and the trailing comment. -/
def sameAs (p q : Program) : Bool :=
  allSame DbrpLine.sameAs p.dbrps q.dbrps && allSame Statement.sameAs p.statements q.statements

end Program

end Tickscript
