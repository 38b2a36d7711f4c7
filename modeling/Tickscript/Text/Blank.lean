import Tickscript.Text.Range

/-!
# Blanks and lines

A *blank* is any character with the Unicode property White_Space. Comment bodies are cut into lines,
and a line loses the blanks at both of its ends (section 10.2 of the specification).
-/

namespace Tickscript.Text

/-- The code points with the property White_Space, in increasing order. -/
def whiteSpace : List Range :=
  [⟨0x9, 0xd⟩, ⟨0x20, 0x20⟩, ⟨0x85, 0x85⟩, ⟨0xa0, 0xa0⟩, ⟨0x1680, 0x1680⟩, ⟨0x2000, 0x200a⟩,
    ⟨0x2028, 0x2029⟩, ⟨0x202f, 0x202f⟩, ⟨0x205f, 0x205f⟩, ⟨0x3000, 0x3000⟩]

/-- Whether `c` separates tokens without being part of one. -/
def isBlank (c : Char) : Bool :=
  Range.anyContains whiteSpace c.toNat

/-- `cs` without the blanks at its end. -/
def trimEnd (cs : List Char) : List Char :=
  (cs.reverse.dropWhile isBlank).reverse

/-- `cs` without the blanks at both ends. -/
def trim (cs : List Char) : List Char :=
  trimEnd (cs.dropWhile isBlank)

/-- Puts `c` in front of the first line. -/
def consLine (c : Char) : List (List Char) → List (List Char)
  | [] => [[c]]
  | l :: ls => (c :: l) :: ls

/-- The lines of `cs`. A newline ends a line, so no line follows a final newline, and the empty
text has no line at all. -/
def lines : List Char → List (List Char)
  | [] => []
  | c :: cs => if c = '\n' then [] :: lines cs else consLine c (lines cs)

end Tickscript.Text
