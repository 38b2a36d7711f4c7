/-!
# Tables of code point ranges

A Unicode property is kept as the increasing list of its ranges. `Range.anyContains` walks the
list and stops at the first range that begins beyond the code point, so a table has to be
sorted; on a sorted table it decides membership in the union of the ranges.
-/

namespace Tickscript.Text

/-- The code points from `first` to `last`, both included. -/
structure Range where
  first : Nat
  last : Nat
deriving Repr, DecidableEq

namespace Range

/-- Whether the code point `n` lies in one of the ranges of an increasing table. -/
def anyContains : List Range → Nat → Bool
  | [], _ => false
  | r :: rs, n => if n < r.first then false else if n ≤ r.last then true else anyContains rs n

end Range

end Tickscript.Text
