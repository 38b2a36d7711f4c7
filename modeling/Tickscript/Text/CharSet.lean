import Tickscript.Text.Range

/-!
# Sets of characters

A set of characters is kept as the increasing list of its ranges, with a gap between any two, so
that a set has one list only. No set holds a surrogate: what is not a character cannot be a member,
and `complement` and `between` leave the surrogates out.
-/

namespace Tickscript.Text

namespace Range

/-- What two ranges have in common. -/
def common? (r s : Range) : Option Range :=
  let first := max r.first s.first
  let last := min r.last s.last
  if first ≤ last then some ⟨first, last⟩ else none

/-- A code point is in the common part of two ranges if it is in both. -/
theorem mem_common? {r s t : Range} (h : r.common? s = some t) (n : Nat) :
    t.first ≤ n ∧ n ≤ t.last ↔ (r.first ≤ n ∧ n ≤ r.last) ∧ (s.first ≤ n ∧ n ≤ s.last) := by
  simp only [common?] at h
  split at h
  · cases h
    simp only
    omega
  · cases h

end Range

/-- A set of characters, as its ranges in increasing order. -/
abbrev CharSet := List Range

namespace CharSet

/-- The largest code point. -/
def maxCodePoint : Nat := 0x10ffff

/-- All characters: every code point but the surrogates. -/
def full : CharSet := [⟨0, 0xd7ff⟩, ⟨0xe000, maxCodePoint⟩]

/-- The set of one character. -/
def single (c : Char) : CharSet := [⟨c.toNat, c.toNat⟩]

/-- The character of a set that has one only. -/
def single? : CharSet → Option Char
  | [r] => if r.first = r.last then some (Char.ofNat r.first) else none
  | _ => none

/-- The members that two sets have in common. -/
def inter (s t : CharSet) : CharSet :=
  s.flatMap fun r => t.filterMap r.common?

/-- The characters from `a` to `b`. -/
def between (a b : Char) : CharSet := inter full [⟨a.toNat, b.toNat⟩]

/-- The set with a range added. Ranges that touch become one. -/
def insert (r : Range) : CharSet → CharSet
  | [] => [r]
  | s :: ss =>
    if r.last + 1 < s.first then r :: s :: ss
    else if s.last + 1 < r.first then s :: insert r ss
    else insert ⟨min r.first s.first, max r.last s.last⟩ ss

/-- The members of either set. -/
def union (s t : CharSet) : CharSet := s.foldr insert t

/-- The code points from `next` on that no range of an increasing list holds. -/
def gaps (next : Nat) : CharSet → CharSet
  | [] => if next ≤ maxCodePoint then [⟨next, maxCodePoint⟩] else []
  | r :: rs => (if next < r.first then [⟨next, r.first - 1⟩] else []) ++ gaps (r.last + 1) rs

/-- The characters that are not in the set. -/
def complement (s : CharSet) : CharSet := inter full (gaps 0 s)

/-- The members of the first set that are not in the second. -/
def diff (s t : CharSet) : CharSet := inter s (complement t)

/-- The members of one of two sets only. -/
def symmDiff (s t : CharSet) : CharSet := union (diff s t) (diff t s)

/-- Whether the set holds a character. -/
def contains (s : CharSet) (c : Char) : Bool := Range.anyContains s c.toNat

/-- Whether the set holds ASCII characters only. -/
def isAscii (s : CharSet) : Bool := List.all s (·.last < 0x80)

/-- Adds `b` to a set that holds `a`. -/
def follow (a b : Char) (s : CharSet) : CharSet :=
  if s.contains a then s.insert ⟨b.toNat, b.toNat⟩ else s

/-- The set with both cases of its ASCII letters. -/
def bothCases (s : CharSet) : CharSet :=
  let lowered := (inter s (between 'A' 'Z')).map fun r => ⟨r.first + 0x20, r.last + 0x20⟩
  let raised := (inter s (between 'a' 'z')).map fun r => ⟨r.first - 0x20, r.last - 0x20⟩
  union lowered (union raised s)

/-- The long s, whose other cases are the ASCII letters. -/
def longS : Char := '\u017f'

/-- The sign of the kelvin, whose other cases are the ASCII letters. -/
def kelvin : Char := '\u212a'

/-- The set with every character that differs from a member in case alone. Letters outside ASCII
keep their case unless an ASCII letter is their other case. -/
def foldCase (s : CharSet) : CharSet :=
  let s := bothCases ((s.follow longS 's').follow kelvin 'k')
  (s.follow 's' longS).follow 'k' kelvin

end CharSet

end Tickscript.Text
