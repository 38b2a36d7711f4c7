import Tickscript.Expr
import Tickscript.Literal.Quote
import Tickscript.Literal.Regex

/-!
# Writing expressions

The conventional layout of section 10.7 of the specification: the calls of a chain stand on lines of
their own, one level deeper than their source, and properties one level deeper still. A binary
expression gets parentheses where the source had them or where its place in the tree needs them, and
a lambda gets them wherever it is an operand.
-/

namespace Tickscript

/-- The blanks in front of a line at some level, for a width of indentation. -/
def indentation (width level : Nat) : String :=
  String.ofList (List.replicate (width * level) ' ')

namespace Comment

/-- One line of a comment. -/
def renderLine (width level : Nat) (line : String) : String :=
  indentation width level ++ (if line = "" then "//\n" else "// " ++ line ++ "\n")

/-- A comment as line comments at some level. -/
def render (width level : Nat) : Option Comment → String
  | none => ""
  | some lines => String.join (lines.map (renderLine width level))

end Comment

namespace Expr

/-- Whether an operand needs parentheses that it does not bring along: a lambda always, and a
binary expression if its precedence does not fit its place. -/
def needsParens (fits : Nat → Bool) : Expr → Bool
  | binary _ op _ _ parenthesized => !parenthesized && !fits op.precedence
  | lambda _ _ => true
  | _ => false

/-- Puts parentheses around a text, if they are needed. -/
def enclose (parens : Bool) (text : String) : String :=
  if parens then "(" ++ text ++ ")" else text

/-- Separates the texts of arguments by commas. -/
def commaSeparated : List String → String
  | [] => ""
  | [s] => s
  | s :: ss => s ++ ", " ++ commaSeparated ss

end Expr

/-- The level at which a call of a chain stands, for a chain at `level`. -/
def CallKind.level (level : Nat) : CallKind → Nat
  | property => level + 2
  | _ => level + 1

mutual

/-- An expression at some level. -/
def Expr.render (width level : Nat) : Expr → String
  | .number _ v => v.render
  | .string _ v verbatim => if verbatim then Quote.verbatim v else Quote.string v
  | .duration _ micros => Duration.render micros
  | .regex _ pattern => Regex.literal pattern
  | .bool _ v => if v then "TRUE" else "FALSE"
  | .star _ => "*"
  | .list _ es => "[" ++ Expr.commaSeparated (Expr.renderList width level es) ++ "]"
  | .identifier _ name => name
  | .reference _ name => Quote.reference name
  | .lambda _ body => "lambda: " ++ body.render width level
  | .unary _ op e =>
    op.symbol ++ Expr.enclose (e.needsParens fun _ => false) (e.render width level)
  | .binary _ op l r parenthesized =>
    Expr.enclose parenthesized
      (Expr.enclose (l.needsParens fun p => op.precedence ≤ p) (l.render width level)
        ++ " " ++ op.symbol ++ " "
        ++ Expr.enclose (r.needsParens fun p => op.precedence < p) (r.render width level))
  | .function call => call.render width level
  | .chain _ source calls => source.name ++ Call.renderList width level calls

/-- A call at some level. -/
def Call.render (width level : Nat) : Call → String
  | .mk _ kind name args =>
    kind.mark ++ name ++ "(" ++ Expr.commaSeparated (Expr.renderList width level args) ++ ")"

/-- The texts of expressions at some level. -/
def Expr.renderList (width level : Nat) : List Expr → List String
  | [] => []
  | e :: es => e.render width level :: Expr.renderList width level es

/-- The calls of a chain at `level`, each on its own line below its comment. -/
def Call.renderList (width level : Nat) : List Call → String
  | [] => ""
  | c :: cs =>
    let level' := c.kind.level level
    "\n" ++ Comment.render width level' c.origin.comment ++ indentation width level'
      ++ c.render width level' ++ Call.renderList width level cs

end

end Tickscript
