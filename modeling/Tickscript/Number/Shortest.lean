import Tickscript.Number.Binary64

/-!
# The shortest decimal of a floating-point number

How a floating-point number is written, where section 3 of the specification leaves the text open:
`Binary64.shortest?` finds the decimal with the fewest digits that reads back as the number. The
decimals `a * 10^s` with one exponent `s` form a grid, and a coarser grid means fewer digits, so it
takes the coarsest grid with a point in the interval of reals that round to the number. The only
candidates of a grid are the two points around the number; of two that read back the nearer is
taken, and the upper one if they are equally near.
-/

namespace Tickscript

/-- The decimal number `digits * 10^exponent`. -/
structure Decimal where
  digits : Nat
  exponent : Int
deriving Repr, DecidableEq

/-- A decimal without an exponent: zeros fill the places up to the point, and no point is written
if no digit stands behind it. -/
def Decimal.positional (d : Decimal) : String :=
  let digits := Nat.toDigits 10 d.digits
  match d.exponent with
  | .ofNat zeros => String.ofList (digits ++ List.replicate zeros '0')
  | .negSucc n =>
    let places := n + 1
    let padded := List.replicate (places + 1 - digits.length) '0' ++ digits
    let whole := padded.length - places
    String.ofList (padded.take whole ++ '.' :: padded.drop whole)

/-- The reals that round to a positive number, and the number itself, all in units of
`1 / den`: from `low` to `high`, with both ends if `closed`. -/
structure RoundingInterval where
  low : Nat
  value : Nat
  high : Nat
  den : Nat
  closed : Bool
deriving Repr, DecidableEq

namespace RoundingInterval

/-- The interval of a finite, positive number. It reaches half way to both neighbours; below a
power of two the lower neighbour is only half as far away. -/
def of (x : Binary64) : RoundingInterval :=
  let m := x.significand
  let unit := Nat.pow 2 x.scale
  let below := if m = Nat.pow 2 52 ∧ 0 < x.scale then 1 else 2
  ⟨(4 * m - below) * unit, 4 * m * unit, (4 * m + 2) * unit, 4 * Nat.pow 2 1074, m % 2 = 0⟩

/-- The same interval in units of `10^s / den`. -/
def onGrid (r : RoundingInterval) (s : Int) : RoundingInterval :=
  match s with
  | .ofNat n => ⟨r.low, r.value, r.high, r.den * Nat.pow 10 n, r.closed⟩
  | .negSucc n =>
    let f := Nat.pow 10 (n + 1)
    ⟨r.low * f, r.value * f, r.high * f, r.den, r.closed⟩

/-- Whether the natural number `a` lies in the interval. -/
def contains (r : RoundingInterval) (a : Nat) : Bool :=
  if r.closed then r.low ≤ a * r.den && a * r.den ≤ r.high
  else r.low < a * r.den && a * r.den < r.high

/-- The natural number in the interval that is nearest to its value, if one of the two around the
value lies in it. -/
def nearest? (r : RoundingInterval) : Option Nat :=
  let a := r.value / r.den
  match r.contains a, r.contains (a + 1) with
  | true, true => if 2 * (r.value % r.den) < r.den then some a else some (a + 1)
  | true, false => some a
  | false, true => some (a + 1)
  | false, false => none

/-- The coarsest of `n` grids, beginning with the exponent `s`, that has a point in the
interval, and that point. -/
def coarsest? (r : RoundingInterval) (s : Int) : Nat → Option Decimal
  | 0 => none
  | n + 1 =>
    match (r.onGrid s).nearest? with
    | some a => some ⟨a, s⟩
    | none => r.coarsest? (s - 1) n

end RoundingInterval

namespace Binary64

/-- The decimal with the fewest digits that rounds to a finite, positive `x`. Every finite number
lies on the grid of `10^-1074`, and none reaches `10^309`, so these grids are enough. -/
def shortest? (x : Binary64) : Option Decimal :=
  (RoundingInterval.of x).coarsest? 309 1384

/-- A magnitude in decimal, with as few digits as read back and without an exponent. -/
def render (x : Binary64) : String :=
  if x.isFinite then
    if x.magnitude = 0 then "0"
    else
      match x.shortest? with
      | some d => d.positional
      | none => "0"
  else "inf"

end Binary64

end Tickscript
