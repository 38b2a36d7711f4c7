/-!
# Floating-point numbers of 64 bits

What a number literal with a point stands for (section 3 of the specification): numbers of the form
`m * 2^q` with a significand `m` below `2^53` and an exponent `q` from -1074, kept as their 64 bits.
Nothing here computes with approximations: `Binary64.ofRatio` rounds an exact quotient of natural
numbers to the nearest representable one, and the operations are that rounding after an exact
computation.
-/

namespace Tickscript

/-- `num / den` rounded to the nearest natural number; of two equally near, the even one. -/
def roundHalfEven (num den : Nat) : Nat :=
  let q := num / den
  let r := num % den
  if 2 * r < den then q
  else if den < 2 * r then q + 1
  else q + q % 2

/-- A floating-point number of 64 bits: a sign bit, eleven bits of exponent, 52 bits of
fraction. -/
structure Binary64 where
  bits : UInt64
deriving Repr, DecidableEq

namespace Binary64

/-- The bits without the sign. -/
def magnitude (x : Binary64) : Nat := x.bits.toNat % Nat.pow 2 63

/-- Whether the sign bit is set. -/
def isNegative (x : Binary64) : Bool := Nat.pow 2 63 ≤ x.bits.toNat

/-- The magnitude of infinity: all bits of the exponent set, none of the fraction. -/
def infinityMagnitude : Nat := 0x7ff * Nat.pow 2 52

/-- Whether `x` is neither infinite nor an undefined result. -/
def isFinite (x : Binary64) : Bool := x.magnitude < infinityMagnitude

/-- The significand: a finite `x` is `±significand * 2^exponent`. Numbers below the normal range
have no hidden bit. -/
def significand (x : Binary64) : Nat :=
  if x.magnitude < Nat.pow 2 52 then x.magnitude else x.magnitude % Nat.pow 2 52 + Nat.pow 2 52

/-- The exponent of two, counted from the least one: a finite `x` is
`±significand * 2^(scale - 1074)`. -/
def scale (x : Binary64) : Nat := x.magnitude / Nat.pow 2 52 - 1

/-- A finite magnitude as an exact quotient. -/
def toRatio (x : Binary64) : Nat × Nat := (x.significand * Nat.pow 2 x.scale, Nat.pow 2 1074)

/-- The scale at which `num / den` has a significand of 53 bits, or zero below the normal range.
The bit lengths of a positive quotient leave two candidates. -/
def scaleFor (num den : Nat) : Nat :=
  let e := num.log2 + 1074 - (den.log2 + 52)
  if num = 0 then 0
  else if num * Nat.pow 2 1074 < den * Nat.pow 2 (e + 52) then e - 1
  else e

/-- The number nearest to `num / den`; of two equally near, the one with the even significand.
Beyond the largest number lies infinity. The carry of a significand that rounds up to `2^53` runs
into the bits of the exponent, which is where it belongs. -/
def ofRatio (num den : Nat) : Binary64 :=
  let scale := scaleFor num den
  let m := roundHalfEven (num * Nat.pow 2 1074) (den * Nat.pow 2 scale)
  ⟨UInt64.ofNat (min infinityMagnitude (scale * Nat.pow 2 52 + m))⟩

/-- The number with the opposite sign. -/
def neg (x : Binary64) : Binary64 := ⟨x.bits ^^^ 0x8000000000000000⟩

/-- The product of two magnitudes, rounded. -/
def mul (x y : Binary64) : Binary64 :=
  ofRatio (x.toRatio.1 * y.toRatio.1) (x.toRatio.2 * y.toRatio.2)

/-- The quotient of two magnitudes, rounded. -/
def div (x y : Binary64) : Binary64 :=
  ofRatio (x.toRatio.1 * y.toRatio.2) (x.toRatio.2 * y.toRatio.1)

/-- Zero. -/
def zero : Binary64 := ⟨0⟩

/-- Infinity. -/
def infinity : Binary64 := ⟨UInt64.ofNat infinityMagnitude⟩

/-- The result of an undefined operation. -/
def undefined : Binary64 := ⟨0x7ff8000000000000⟩

end Binary64

end Tickscript
