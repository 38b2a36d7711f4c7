/-!
# Positions

Where a token or a node starts in its source (sections 3 and 10.2 of the specification). Positions
serve messages only: two programs that differ in positions alone are the same program.
-/

namespace Tickscript

/-- A place in a source text: a byte offset into its UTF-8 form, and a line and a column that
both count from one, the column in characters. -/
structure Position where
  offset : Nat
  line : Nat
  column : Nat
deriving Repr, DecidableEq

namespace Position

/-- The position of the first character of a source. -/
def start : Position := ⟨0, 1, 1⟩

instance : Inhabited Position := ⟨start⟩

/-- The position after the character `c`. A newline opens the next line. -/
def step (p : Position) (c : Char) : Position :=
  if c = '\n' then ⟨p.offset + c.utf8Size, p.line + 1, 1⟩
  else ⟨p.offset + c.utf8Size, p.line, p.column + 1⟩

/-- The position after all of `cs`. -/
def advance (p : Position) (cs : List Char) : Position :=
  cs.foldl step p

/-- Without a character a position stays. -/
@[simp]
theorem advance_nil (p : Position) : p.advance [] = p := rfl

@[simp]
theorem advance_cons (p : Position) (c : Char) (cs : List Char) :
    p.advance (c :: cs) = (p.step c).advance cs := rfl

/-- Going over a text is going over its parts. -/
theorem advance_append (p : Position) (as bs : List Char) :
    p.advance (as ++ bs) = (p.advance as).advance bs := by
  simp [advance, List.foldl_append]

/-- How messages name a position. -/
def describe (p : Position) : String :=
  s!"line {p.line} char {p.column}"

end Position

end Tickscript
