import Tickscript.Expr.Printer
import Tickscript.Program

/-!
# Writing programs

The formatter of section 10.7 of the specification, on whole programs. `dbrp` lines stand first, and
a blank line comes before each statement but the first of a program without `dbrp` lines. A comment
is written above what it was attached to.
-/

namespace Tickscript

/-- What a declared variable stands for. -/
def Binding.render (width : Nat) : Binding → String
  | value e => " = " ++ e.render width 0
  | template type => " " ++ type.name

/-- A statement, with its comment above it. -/
def Statement.render (width : Nat) (s : Statement) : String :=
  Comment.render width 0 s.origin.comment ++
    match s with
    | declare _ name binding => "var " ++ name.name ++ binding.render width
    | expr e => e.render width 0

/-- A `dbrp` line, with its comment above it. -/
def DbrpLine.render (width : Nat) (d : DbrpLine) : String :=
  Comment.render width 0 d.origin.comment ++ "dbrp " ++ Quote.reference d.database ++ "."
    ++ Quote.reference d.retentionPolicy ++ "\n"

namespace Program

/-- Statements, each on lines of its own, a blank line between any two. -/
def renderStatements (width : Nat) : List Statement → String
  | [] => ""
  | [s] => s.render width ++ "\n"
  | s :: ss => s.render width ++ "\n\n" ++ renderStatements width ss

/-- The `dbrp` lines and statements of a program. -/
def renderBody (width : Nat) (p : Program) : String :=
  let dbrps := String.join (p.dbrps.map (DbrpLine.render width))
  let gap := if p.dbrps.isEmpty || p.statements.isEmpty then "" else "\n"
  dbrps ++ gap ++ renderStatements width p.statements

/-- A program in the conventional layout, for a width of indentation. -/
def render (width : Nat) (p : Program) : String :=
  let body := p.renderBody width
  match p.trailingComment with
  | none => body
  | some lines => body ++ (if body = "" then "" else "\n") ++ Comment.render width 0 (some lines)

/-- The width of indentation that is used if none is asked for. -/
def defaultWidth : Nat := 4

/-- A program in the conventional layout. -/
def format (p : Program) : String := p.render defaultWidth

end Program

end Tickscript
