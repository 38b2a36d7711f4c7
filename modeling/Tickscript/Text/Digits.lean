/-!
# Digits

Runs of ASCII digits read as numbers. `decimal` is for text that is known to consist of digits;
`natural?` looks at each character and works in any base up to sixteen.
-/

namespace Tickscript.Text

/-- The value of a decimal digit. -/
def digitValue (c : Char) : Nat := c.toNat - '0'.toNat

/-- The digits of `cs` read in base ten, after the value `acc` of the digits before them. -/
def decimalFrom (acc : Nat) (cs : List Char) : Nat :=
  cs.foldl (fun n c => 10 * n + digitValue c) acc

/-- The value of a run of ASCII digits in base ten. -/
def decimal (cs : List Char) : Nat := decimalFrom 0 cs

/-- Digits are read from left to right. -/
theorem decimal_append (cs ds : List Char) :
    decimal (cs ++ ds) = decimalFrom (decimal cs) ds := by
  simp [decimal, decimalFrom]

/-- The value of a hexadecimal digit. -/
def hexDigit? (c : Char) : Option Nat :=
  if c.isDigit then some (digitValue c)
  else if 'a' ≤ c ∧ c ≤ 'f' then some (c.toNat - 'a'.toNat + 10)
  else if 'A' ≤ c ∧ c ≤ 'F' then some (c.toNat - 'A'.toNat + 10)
  else none

/-- The value of a digit in a base up to sixteen. -/
def digit? (base : Nat) (c : Char) : Option Nat :=
  (hexDigit? c).bind fun d => if d < base then some d else none

/-- The number that digits in some base stand for. There has to be a digit. -/
def natural? (base : Nat) (cs : List Char) : Option Nat :=
  if cs = [] then none
  else (cs.mapM (digit? base)).map fun ds => ds.foldl (fun n d => base * n + d) 0

/-- The character with a hexadecimal code point. -/
def codePoint? (cs : List Char) : Option Char :=
  (natural? 16 cs).bind fun n => if n.isValidChar then some (Char.ofNat n) else none

end Tickscript.Text
