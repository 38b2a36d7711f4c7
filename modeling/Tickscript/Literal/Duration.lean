import Tickscript.Literal.Error
import Tickscript.Text.Digits

/-!
# Durations

The durations of sections 10.2 and 10.3 of the specification. A duration literal is a whole number
and a unit, as in `10s` or `250ms`; its value is a count of microseconds that fits in 64 bits.
`Duration.render` writes a duration in the largest unit that divides it, so two literals with the
same value are written alike.
-/

namespace Tickscript

namespace Duration

/-- A unit of time: its written name and its length in microseconds. -/
structure TimeUnit where
  name : List Char
  micros : Nat
deriving Repr, DecidableEq

/-- The units, the longest first. Two names stand for the microsecond; `u` is the one that is
written. -/
def units : List TimeUnit :=
  [⟨['w'], 604800000000⟩, ⟨['d'], 86400000000⟩, ⟨['h'], 3600000000⟩, ⟨['m'], 60000000⟩,
    ⟨['s'], 1000000⟩, ⟨['m', 's'], 1000⟩, ⟨['u'], 1⟩, ⟨['µ'], 1⟩]

/-- Whether `c` belongs to the magnitude of a number or a duration. -/
def isMagnitude (c : Char) : Bool := c.isDigit || c == '.'

/-- Cuts a duration into its magnitude and its unit. The magnitude is the longest run of digits
and points at the front, which may not be empty; the rest has to name a unit. -/
def split? (cs : List Char) : Option (List Char × TimeUnit) :=
  let magnitude := cs.takeWhile isMagnitude
  if magnitude.isEmpty then none
  else
    match units.find? (fun u => u.name == cs.dropWhile isMagnitude) with
    | some u => some (magnitude, u)
    | none => none

/-- One more than the largest count of microseconds that a literal can stand for. -/
def limit : Nat := Nat.pow 2 64

/-- The microseconds that a duration literal stands for. A point in the magnitude, a magnitude
that does not fit in 64 bits and a product that does not are all refused. -/
def read (text : String) : Except LiteralError Nat :=
  match split? text.toList with
  | none => .error (.invalidDuration text)
  | some (magnitude, u) =>
    if magnitude.all Char.isDigit && Text.decimal magnitude * u.micros < limit then
      .ok (Text.decimal magnitude * u.micros)
    else .error (.invalidDuration text)

/-- A number of microseconds in the largest unit that divides it. -/
def render (micros : Nat) : String :=
  if micros = 0 then "0s"
  else
    match units.find? (fun u => micros % u.micros == 0) with
    | some u => toString (micros / u.micros) ++ String.ofList u.name
    | none => toString micros ++ "u"

/-- A stretch of time as clocks count it: whole seconds, and the nanoseconds after the last of
them. -/
structure Span where
  seconds : Nat
  nanoseconds : Nat
  seconds_lt : seconds < Nat.pow 2 64
  nanoseconds_lt : nanoseconds < 1000000000
deriving Repr, DecidableEq

namespace Span

/-- The whole microseconds of a stretch of time. -/
def micros (d : Span) : Nat := d.seconds * 1000000 + d.nanoseconds / 1000

/-- A stretch of time as a literal shows it, to the microsecond. -/
def render (d : Span) : String := Duration.render d.micros

end Span

end Duration

end Tickscript
