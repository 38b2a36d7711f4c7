import Tickscript.Text.Digits

/-!
# Scalars of YAML documents

A scalar is a piece of text in one of five styles: plain, between single or double quotes, or a
literal or folded block. In all but literal blocks a single line break inside a scalar reads as a
space, and further breaks are kept.

The functions here read a scalar from a *place*, which knows its line and column because
indentation decides where a scalar ends. Loops take at least one character in each round, so the
length of the rest bounds their rounds.
-/

namespace Tickscript.Wire.Yaml

/-- A place in a document: what is left of it, and where that starts. Lines and columns count
from zero. -/
structure Place where
  rest : List Char
  index : Nat
  line : Nat
  column : Nat
deriving Repr, DecidableEq

/-- Whether `c` ends a line. -/
def isBreak (c : Char) : Bool :=
  c == '\n' || c == '\r' || c == '\u0085' || c == '\u2028' || c == '\u2029'

/-- Whether `c` separates words on a line. -/
def isSpace (c : Char) : Bool := c == ' ' || c == '\t'

/-- Whether a word ends before `next`. -/
def endsWord : Option Char → Bool
  | none => true
  | some c => isSpace c || isBreak c

/-- Whether `c` may stand in a document at all. -/
def isAllowed (c : Char) : Bool :=
  c == '\t' || c == '\n' || c == '\r' || c == '\u0085' || (0x20 ≤ c.toNat && c.toNat ≤ 0x7e)
    || (0xa0 ≤ c.toNat && c.toNat != 0xfffe && c.toNat != 0xffff)

namespace Place

/-- The first place of a document. -/
def start (cs : List Char) : Place := ⟨cs, 0, 0, 0⟩

/-- The character here. -/
def head? (p : Place) : Option Char := p.rest.head?

/-- The character `i` places further. -/
def peek (p : Place) (i : Nat) : Option Char := p.rest[i]?

/-- Behind one character that ends no line. -/
def skip (p : Place) : Place := ⟨p.rest.drop 1, p.index + 1, p.line, p.column + 1⟩

/-- Behind `n` characters that end no line. -/
def skipBy (p : Place) (n : Nat) : Place := ⟨p.rest.drop n, p.index + n, p.line, p.column + n⟩

/-- Behind a line break, which may be of two characters. -/
def skipBreak (p : Place) : Place :=
  match p.rest with
  | '\r' :: '\n' :: tl => ⟨tl, p.index + 2, p.line + 1, 0⟩
  | _ :: tl => ⟨tl, p.index + 1, p.line + 1, 0⟩
  | [] => p

/-- The line break here as it is kept in a scalar. Only the two Unicode separators keep their
own form. -/
def breakText (p : Place) : List Char :=
  match p.head? with
  | some c => if c = '\u2028' ∨ c = '\u2029' then [c] else if isBreak c then ['\n'] else []
  | none => []

/-- Whether a line break is here. -/
def atBreak (p : Place) : Bool := p.head?.any isBreak

/-- Whether a space or a tab is here. -/
def atSpace (p : Place) : Bool := p.head?.any isSpace

/-- Whether a line or the document ends here. -/
def atLineEnd (p : Place) : Bool := p.rest.isEmpty || p.atBreak

/-- Whether a mark between documents is here: three of `c` alone at the start of a line. -/
def atMark (p : Place) (c : Char) : Bool :=
  p.column == 0 && p.rest.take 3 == [c, c, c] && endsWord (p.peek 3)

/-- Whether either mark between documents is here. -/
def atDocumentMark (p : Place) : Bool := p.atMark '-' || p.atMark '.'

/-- Behind the rest of the line. -/
def skipLine : Nat → Place → Place
  | 0, p => p
  | n + 1, p => if p.atLineEnd then p else skipLine n p.skip

end Place

/-- What separates two words of a scalar: spaces, or the first line break and those after it. -/
structure Gap where
  spaces : List Char := []
  first : List Char := []
  more : List Char := []
  broken : Bool := false
deriving Repr, DecidableEq

/-- What a gap reads as. -/
def Gap.text (g : Gap) : List Char :=
  if g.broken then
    if g.first = ['\n'] then (if g.more = [] then [' '] else g.more) else g.first ++ g.more
  else g.spaces

/-- Reads a gap. A tab may not stand where the indentation of a line is less than `indent`. -/
def Gap.read (indent : Int) : Nat → Gap → Place → Option (Gap × Place)
  | 0, g, p => some (g, p)
  | n + 1, g, p =>
    match p.head? with
    | none => some (g, p)
    | some c =>
      if isSpace c then
        if g.broken then
          if c = '\t' ∧ (p.column : Int) < indent then none else Gap.read indent n g p.skip
        else Gap.read indent n { g with spaces := g.spaces ++ [c] } p.skip
      else if isBreak c then
        if g.broken then Gap.read indent n { g with more := g.more ++ p.breakText } p.skipBreak
        else
          Gap.read indent n { g with spaces := [], first := p.breakText, broken := true }
            p.skipBreak
      else some (g, p)

/-- The characters that structure a flow collection. -/
def flowMarks : List Char := [',', '[', ']', '\x7b', '\x7d']

/-- Reads a word of a plain scalar. In a flow collection a colon may not touch a structuring
character. -/
def plainWord (flow : Bool) : Nat → Place → Option (List Char × Place)
  | 0, p => some ([], p)
  | n + 1, p =>
    match p.head? with
    | none => some ([], p)
    | some c =>
      let next := p.peek 1
      if isSpace c || isBreak c then some ([], p)
      else if flow && c == ':' && next.any ('?' :: flowMarks).contains then none
      else if (c == ':' && endsWord next) || (flow && flowMarks.contains c) then some ([], p)
      else
        match plainWord flow n p.skip with
        | none => none
        | some (word, q) => some (c :: word, q)

/-- Reads a plain scalar of which `acc` has been read, up to the gap `g`. The answer also says
whether a line break ended it. -/
def plainScalar (flow : Bool) (indent : Int) :
    Nat → List Char → Gap → Place → Option (List Char × Bool × Place)
  | 0, acc, g, p => some (acc, g.broken, p)
  | n + 1, acc, g, p =>
    if p.atDocumentMark || p.head? = some '#' then some (acc, g.broken, p)
    else
      match plainWord flow (p.rest.length + 1) p with
      | none => none
      | some (word, q) =>
        let (acc, g) := if word = [] then (acc, g) else (acc ++ g.text ++ word, {})
        if q.atSpace || q.atBreak then
          match Gap.read indent (q.rest.length + 1) g q with
          | none => none
          | some (g, r) =>
            if !flow && (r.column : Int) < indent then some (acc, g.broken, r)
            else plainScalar flow indent n acc g r
        else some (acc, g.broken, q)

/-- The character with a code point of `width` hexadecimal digits. -/
def codePoint? (width : Nat) (cs : List Char) : Option Char :=
  if cs.length < width then none else Text.codePoint? (cs.take width)

/-- What the characters after a backslash stand for, and how many they are. -/
def escape? (cs : List Char) : Option (Char × Nat) :=
  match cs with
  | [] => none
  | c :: tl =>
    match c with
    | '0' => some ('\x00', 1)
    | 'a' => some ('\x07', 1)
    | 'b' => some ('\x08', 1)
    | 't' => some ('\t', 1)
    | '\t' => some ('\t', 1)
    | 'n' => some ('\n', 1)
    | 'v' => some ('\x0b', 1)
    | 'f' => some ('\x0c', 1)
    | 'r' => some ('\r', 1)
    | 'e' => some ('\x1b', 1)
    | ' ' => some (' ', 1)
    | '"' => some ('"', 1)
    | '/' => some ('/', 1)
    | '\\' => some ('\\', 1)
    | 'N' => some ('\u0085', 1)
    | '_' => some ('\u00a0', 1)
    | 'L' => some ('\u2028', 1)
    | 'P' => some ('\u2029', 1)
    | 'x' => (codePoint? 2 tl).map fun c => (c, 3)
    | 'u' => (codePoint? 4 tl).map fun c => (c, 5)
    | 'U' => (codePoint? 8 tl).map fun c => (c, 9)
    | _ => none

/-- Reads a word of a quoted scalar. The answer also says whether an escaped line break ended
it. -/
def quotedWord (single : Bool) : Nat → Place → Option (List Char × Bool × Place)
  | 0, p => some ([], false, p)
  | n + 1, p =>
    match p.head? with
    | none => some ([], false, p)
    | some c =>
      if isSpace c || isBreak c then some ([], false, p)
      else if single && c == '\'' && p.peek 1 == some '\'' then
        (quotedWord single n (p.skipBy 2)).map fun (word, r) => ('\'' :: word, r)
      else if c == (if single then '\'' else '"') then some ([], false, p)
      else if !single && c == '\\' then
        if (p.peek 1).any isBreak then some ([], true, p.skip.skipBreak)
        else
          match escape? (p.rest.drop 1) with
          | none => none
          | some (e, width) =>
            (quotedWord single n (p.skipBy (width + 1))).map fun (word, r) => (e :: word, r)
      else (quotedWord single n p.skip).map fun (word, r) => (c :: word, r)

/-- Reads a quoted scalar of which the opening quote and `acc` have been read. -/
def quotedScalar (single : Bool) : Nat → List Char → Place → Option (List Char × Place)
  | 0, _, _ => none
  | n + 1, acc, p =>
    if p.atDocumentMark || p.rest.isEmpty then none
    else
      match quotedWord single (p.rest.length + 1) p with
      | none => none
      | some (word, joined, q) =>
        let acc := acc ++ word
        if q.head? = some (if single then '\'' else '"') then some (acc, q.skip)
        else
          match Gap.read (-1) (q.rest.length + 1) { broken := joined } q with
          | none => none
          | some (g, r) => quotedScalar single n (acc ++ g.text) r

/-- How a block scalar ends: its last line break alone is kept, or none, or all. -/
inductive Chomping where
  | clip | strip | keep
deriving Repr, DecidableEq

/-- The chomping that a sign asks for. -/
def Chomping.ofSign? : Option Char → Option Chomping
  | some '+' => some keep
  | some '-' => some strip
  | _ => none

/-- An indentation from one to nine. -/
def indentDigit? : Option Char → Option Nat
  | some c => if c.isDigit ∧ c ≠ '0' then some (Text.digitValue c) else none
  | none => none

/-- Reads the head of a block scalar, behind its mark: a sign and a digit in either order. -/
def blockHead (p : Place) : Option (Chomping × Option Nat × Place) :=
  match Chomping.ofSign? p.head? with
  | some chomping =>
    match indentDigit? p.skip.head? with
    | some n => some (chomping, some n, p.skip.skip)
    | none => if p.skip.head? = some '0' then none else some (chomping, none, p.skip)
  | none =>
    match indentDigit? p.head? with
    | some n =>
      match Chomping.ofSign? p.skip.head? with
      | some chomping => some (chomping, some n, p.skip.skip)
      | none => some (.clip, some n, p.skip)
    | none => if p.head? = some '0' then none else some (.clip, none, p)

/-- Behind the spaces of an indentation, at most up to the column `indent`, if there is one. -/
def skipIndent (indent : Option Nat) : Nat → Place → Place
  | 0, p => p
  | n + 1, p =>
    if p.head? = some ' ' ∧ indent.all (p.column < ·) then skipIndent indent n p.skip else p

/-- Reads empty lines of a block scalar. The answer holds their breaks and the greatest
indentation among them and the line after them. -/
def blockBreaks (indent : Option Nat) :
    Nat → List Char → Nat → Place → Option (List Char × Nat × Place)
  | 0, breaks, widest, p => some (breaks, widest, p)
  | n + 1, breaks, widest, p =>
    let q := skipIndent indent (p.rest.length + 1) p
    let widest := max widest q.column
    if q.head? = some '\t' ∧ indent.all (q.column < ·) then none
    else if q.atBreak then blockBreaks indent n (breaks ++ q.breakText) widest q.skipBreak
    else some (breaks, widest, q)

/-- What a block scalar has read so far: its text, the break of its last line, the breaks of the
empty lines after it, and whether that last line began with a space. -/
structure Block where
  text : List Char := []
  last : List Char := []
  empty : List Char := []
  spaced : Bool := false

/-- Reads the lines of a block scalar. -/
def blockLines (literal : Bool) (indent : Nat) : Nat → Block → Place → Option (Block × Place)
  | 0, b, p => some (b, p)
  | n + 1, b, p =>
    if p.column = indent ∧ p.rest ≠ [] then
      let spaced := p.atSpace
      let joint :=
        if !literal && b.last == ['\n'] && !b.spaced && !spaced then
          if b.empty = [] then [' '] else []
        else b.last
      let line := p.rest.takeWhile fun c => !isBreak c
      let q := p.skipBy line.length
      match blockBreaks (some indent) (q.rest.length + 1) [] 0 q.skipBreak with
      | none => none
      | some (empty, _, r) =>
        blockLines literal indent n
          ⟨b.text ++ joint ++ b.empty ++ line, q.breakText, empty, spaced⟩ r
    else some (b, p)

/-- Reads a block scalar, behind its mark, inside a block with indentation `outer`. -/
def blockScalar (literal : Bool) (outer : Int) (p : Place) : Option (List Char × Place) := do
  let (chomping, increment, p) ← blockHead p
  let p := p.skipBy (p.rest.takeWhile isSpace).length
  let p := if p.head? = some '#' then p.skipLine (p.rest.length + 1) else p
  if !p.atLineEnd then failure
  let p := p.skipBreak
  let asked := increment.map fun n => if 0 ≤ outer then outer.toNat + n else n
  let (empty, widest, p) ← blockBreaks asked (p.rest.length + 1) [] 0 p
  let indent := asked.getD (max (max widest (outer + 1).toNat) 1)
  let (b, p) ← blockLines literal indent (p.rest.length + 1) { empty := empty } p
  let tail :=
    match chomping with
    | .strip => []
    | .clip => b.last
    | .keep => b.last ++ b.empty
  return (b.text ++ tail, p)

end Tickscript.Wire.Yaml
