import Tickscript.Text.CharSet

/-!
# Bracketed classes

A class between brackets names the characters that may stand in one place. It is kept as it was
written, because how deeply classes are nested counts: `Class.depth` measures that, and `Class.set`
says which characters are meant.
-/

namespace Tickscript.Pattern

/-- How two classes are combined. -/
inductive ClassOp where
  | intersection
  | difference
  | symmetricDifference
deriving Repr, DecidableEq

/-- The set that results from combining two. -/
def ClassOp.apply : ClassOp → Text.CharSet → Text.CharSet → Text.CharSet
  | intersection => Text.CharSet.inter
  | difference => Text.CharSet.diff
  | symmetricDifference => Text.CharSet.symmDiff

/-- A class of characters: one character, range or named class; what stands between brackets;
several items side by side; or two classes with an operator between them. -/
inductive Class where
  | chars (set : Text.CharSet)
  | bracket (negated : Bool) (inside : Class)
  | union (items : List Class)
  | combine (op : ClassOp) (left right : Class)
deriving Repr

namespace Class

/-- The class of some items side by side. One item stands for itself. -/
def ofItems : List Class → Class
  | [] => chars []
  | [item] => item
  | items => union items

mutual

/-- How deeply a class is nested. Brackets, items side by side and operators each add a level. -/
def depth : Class → Nat
  | chars _ => 0
  | bracket _ inside => inside.depth + 1
  | union items => maxDepth items + 1
  | combine _ left right => max left.depth right.depth + 1

/-- The depth of the deepest of some classes. -/
def maxDepth : List Class → Nat
  | [] => 0
  | item :: items => max item.depth (maxDepth items)

end

mutual

/-- The characters of a class. -/
def set : Class → Text.CharSet
  | chars set => set
  | bracket negated inside => if negated then inside.set.complement else inside.set
  | union items => setOfItems items
  | combine op left right => op.apply left.set right.set

/-- The characters of some items side by side. -/
def setOfItems : List Class → Text.CharSet
  | [] => []
  | item :: items => item.set.union (setOfItems items)

end

end Class

end Tickscript.Pattern
