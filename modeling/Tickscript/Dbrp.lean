import Tickscript.Literal.Quote
import Tickscript.Wire.Value

/-!
# Databases and retention policies

The records of section 10.6 of the specification, with their names on the wire, and the comparison
of two lists as multisets that section 6 asks of whoever stores them.
-/

namespace Tickscript

/-- A database and one of its retention policies. -/
structure Dbrp where
  database : String
  retentionPolicy : String
deriving Repr, DecidableEq

namespace Dbrp

/-- The pair as two references with a point between them. -/
def describe (d : Dbrp) : String :=
  Quote.reference d.database ++ "." ++ Quote.reference d.retentionPolicy

/-- The pair as a wire value. -/
def encode (d : Dbrp) : Wire.Value :=
  .object [("db", .string d.database), ("rp", .string d.retentionPolicy)]

/-- Pairs are ordered by database, then by retention policy, character by character. -/
def le (a b : Dbrp) : Bool :=
  a.database < b.database || (a.database = b.database && !(b.retentionPolicy < a.retentionPolicy))

/-- A list of pairs in order. -/
def sort (ds : List Dbrp) : List Dbrp := ds.mergeSort le

/-- A count for each pair that was met. -/
abbrev Tally := List (Dbrp × Int)

namespace Tally

/-- Adds to the count of a pair, which is zero before the pair is met. -/
def add (d : Dbrp) (n : Int) : Tally → Tally
  | [] => [(d, n)]
  | (e, m) :: rest => if e = d then (e, m + n) :: rest else (e, m) :: add d n rest

/-- Adds `n` to the count of each pair of a list, once for each time it occurs. -/
def addEach (n : Int) (ds : List Dbrp) (t : Tally) : Tally := ds.foldl (fun t d => add d n t) t

end Tally

/-- Whether each pair occurs as often in one list as in the other. The pairs of the first are
counted up and those of the second down in one tally, and every count has to end at zero. -/
def sameAsSets (as bs : List Dbrp) : Bool :=
  as.length == bs.length && (Tally.addEach (-1) bs (Tally.addEach 1 as [])).all fun e => e.2 == 0

end Dbrp

end Tickscript
