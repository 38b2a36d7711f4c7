import Tickscript.Literal.Duration
import Tickscript.Number.Shortest

/-!
# Numbers

The interpretation of numbers in sections 4.2 and 10.3 of the specification. A number literal is a
run of digits, which stands for a whole number of at most 63 bits, or digits around one point, which
stand for the nearest floating-point number. A literal has no sign: minus is an operator.
-/

namespace Tickscript

/-- The value of a number literal. -/
inductive Number where
  | int (value : Nat)
  | float (value : Binary64)
deriving Repr, DecidableEq

namespace Number

/-- The largest whole number that a literal can stand for. -/
def maxInt : Nat := Nat.pow 2 63 - 1

/-- Whether `0x` occurs in a text. It marks a number in base sixteen, which is no literal. -/
def hasHexMark : List Char → Bool
  | [] => false
  | c :: cs => (c == '0' && cs.head? == some 'x') || hasHexMark cs

/-- Whether a text is written as a number: it has no mark of base sixteen and no second point, it
is neither empty nor a point alone, and nothing but digits and points occurs in it. -/
def isWellFormed (cs : List Char) : Bool :=
  !hasHexMark cs && cs.count '.' ≤ 1 && cs != [] && cs != ['.'] && cs.all Duration.isMagnitude

/-- The value of a number literal. Whether it is a whole number depends on the point alone, and a
missing side of the point reads as zero. -/
def read (text : String) : Except LiteralError Number :=
  let cs := text.toList
  if isWellFormed cs then
    match cs.dropWhile (· != '.') with
    | [] =>
      if Text.decimal cs ≤ maxInt then .ok (.int (Text.decimal cs))
      else .error (.illegalNumber text)
    | _ :: fraction =>
      let whole := cs.takeWhile (· != '.')
      .ok (.float (.ofRatio (Text.decimal (whole ++ fraction)) (Nat.pow 10 fraction.length)))
  else .error (.illegalNumber text)

/-- A literal for a value. A floating-point number always shows a point. -/
def render : Number → String
  | int n => toString n
  | float x =>
    let text := x.render
    if text.toList.contains '.' then text else text ++ ".0"

/-- Whether the value is a whole number. -/
def isInt : Number → Bool
  | int _ => true
  | float _ => false

/-- The value as a whole number, if it is one. -/
def toInt? : Number → Option Nat
  | int n => some n
  | float _ => none

/-- The value as a floating-point number, if it is one. -/
def toFloat? : Number → Option Binary64
  | int _ => none
  | float x => some x

end Number

end Tickscript
