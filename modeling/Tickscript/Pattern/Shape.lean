import Tickscript.Pattern

/-!
# Shapes of regular expressions

A `Shape` is what an expression comes to once everything that matches alike is written alike: groups
that capture nothing are gone, characters in a row are one text, a choice of single characters is a
set, parts that all options start with stand before the choice, and a repetition that can only be
empty or happen once is no repetition. An automaton is built from the shape, so the shape decides
how much memory an expression asks for.
-/

namespace Tickscript.Pattern

/-- What an expression matches. -/
inductive Shape where
  | nothing
  | text (chars : List Char)
  | set (chars : Text.CharSet)
  | assertion (kind : Assertion)
  | capture (inside : Shape)
  | repetition (times : Times) (inside : Shape)
  | sequence (parts : List Shape)
  | choice (options : List Shape)
deriving Repr

namespace Shape

mutual

/-- Whether a shape takes no character, however it matches. -/
def isZeroWidth : Shape → Bool
  | nothing => true
  | text _ => false
  | set _ => false
  | assertion _ => true
  | capture inside => inside.isZeroWidth
  | repetition _ inside => inside.isZeroWidth
  | sequence parts => areZeroWidth parts
  | choice options => areZeroWidth options

/-- Whether each of some shapes takes no character. -/
def areZeroWidth : List Shape → Bool
  | [] => true
  | s :: ss => s.isZeroWidth && areZeroWidth ss

end

mutual

/-- Whether a shape takes a character, however it matches. -/
def consumes : Shape → Bool
  | nothing => false
  | text _ => true
  | set s => !s.isEmpty
  | assertion _ => false
  | capture inside => inside.consumes
  | repetition times inside => 0 < times.least && inside.consumes
  | sequence parts => someConsumes parts
  | choice options => eachConsumes options

/-- Whether one of some shapes takes a character. -/
def someConsumes : List Shape → Bool
  | [] => false
  | s :: ss => s.consumes || someConsumes ss

/-- Whether each of some shapes takes a character. -/
def eachConsumes : List Shape → Bool
  | [] => true
  | s :: ss => s.consumes && eachConsumes ss

end

mutual

/-- Whether two shapes are the same. A capture is the same as no other, because each has a number of
its own. -/
def sameAs : Shape → Shape → Bool
  | nothing, nothing => true
  | text cs, text ds => cs == ds
  | set s, set t => s == t
  | assertion a, assertion b => a == b
  | repetition t s, repetition u s' => t == u && s.sameAs s'
  | sequence ss, sequence ts => sameRow ss ts
  | choice ss, choice ts => sameRow ss ts
  | _, _ => false

/-- Whether two lists hold the same shapes. -/
def sameRow : List Shape → List Shape → Bool
  | [], [] => true
  | s :: ss, t :: ts => s.sameAs t && sameRow ss ts
  | _, _ => false

end

/-- The shape of a set. A set of one character is a text. -/
def ofSet (s : Text.CharSet) : Shape :=
  match s.single? with
  | some c => text [c]
  | none => set s

/-- The shape of a repetition. Repeating what takes no character more than once changes nothing. -/
def ofRepetition (t : Times) (inside : Shape) : Shape :=
  let least := if inside.isZeroWidth then min t.least 1 else t.least
  let most := if inside.isZeroWidth then some (min (t.most.getD 1) 1) else t.most
  if most = some 0 then nothing
  else if least = 1 ∧ most = some 1 then inside
  else repetition ⟨least, most, t.isLazy⟩ inside

/-- What a shape contributes to a row. -/
def row : Shape → List Shape
  | nothing => []
  | sequence parts => parts
  | s => [s]

/-- Puts a shape in front of a row. Texts that meet become one. -/
def consPart : Shape → List Shape → List Shape
  | text cs, text ds :: rest => text (cs ++ ds) :: rest
  | s, rest => s :: rest

/-- The shape of some parts in a row. -/
def ofParts (parts : List Shape) : Shape :=
  match (parts.flatMap row).foldr consPart [] with
  | [] => nothing
  | [s] => s
  | row => sequence row

/-- What a shape contributes to a choice. -/
def alternatives : Shape → List Shape
  | choice options => options
  | s => [s]

/-- The characters that a shape stands for, if it takes just one. -/
def charSet? : Shape → Option Text.CharSet
  | text [c] => some (.single c)
  | set s => some s
  | _ => none

/-- The text that a shape stands for. -/
def text? : Shape → Option (List Char)
  | text cs => some cs
  | _ => none

/-- The parts of a sequence. -/
def parts? : Shape → Option (List Shape)
  | sequence parts => some parts
  | _ => none

/-- The shape of a choice whose options start differently. -/
def ofAlternatives (options : List Shape) : Shape :=
  let options := options.flatMap alternatives
  match options.mapM charSet? with
  | some sets => ofSet (sets.foldr Text.CharSet.union [])
  | none => choice options

/-- The parts that two rows start with. -/
def commonParts : List Shape → List Shape → List Shape
  | s :: ss, t :: ts => if s.sameAs t then s :: commonParts ss ts else []
  | _, _ => []

/-- The shape of a choice. If all options are sequences that start alike, what they start with comes
first and what is left of them is the choice. -/
def ofOptions (options : List Shape) : Shape :=
  let options := options.flatMap alternatives
  match options.mapM parts? with
  | some (row :: rows) =>
    let common := rows.foldl commonParts row
    if common.isEmpty then ofAlternatives options
    else
      let rests := (row :: rows).map fun parts => ofParts (parts.drop common.length)
      ofParts (common ++ [ofAlternatives rests])
  | _ => ofAlternatives options

end Shape

mutual

/-- The shape of an expression. -/
def shape : Pattern → Shape
  | .empty => .nothing
  | .modes => .nothing
  | .chars set => .ofSet set
  | .bracketed inside => .ofSet inside.set
  | .assertion kind => .assertion kind
  | .group true inside => .capture inside.shape
  | .group false inside => inside.shape
  | .repetition times inside => .ofRepetition times inside.shape
  | .sequence parts => .ofParts (shapes parts)
  | .choice options => .ofOptions (shapes options)

/-- The shapes of some expressions. -/
def shapes : List Pattern → List Shape
  | [] => []
  | p :: ps => p.shape :: shapes ps

end

end Tickscript.Pattern
