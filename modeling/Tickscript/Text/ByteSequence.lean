import Tickscript.Text.CharSet

/-!
# Byte sequences of a set of characters

A program that reads UTF-8 byte by byte meets a set of characters as a set of byte strings, which
falls into *sequences*: a sequence gives one range of bytes for each byte, and stands for every
string that takes its bytes from them in order. A range of code points is split where its ends are
ragged, so that after a range of more than one byte only full ranges of continuation bytes follow.
-/

namespace Tickscript.Text

/-- Ranges of bytes, one for each byte of an encoded character. -/
abbrev ByteSequence := List Range

namespace ByteSequence

/-- The mark of a continuation byte. -/
def continuation : Nat := 0x80

/-- The continuation bytes. -/
def anyContinuation : Range := ⟨continuation, continuation + 63⟩

/-- The sequences for the numbers from `a` to `b`, which are written with a first byte that bears
`mark` and with `k` continuation bytes of six bits each. -/
def split : Nat → Nat → Nat → Nat → List ByteSequence
  | 0, mark, a, b => [[⟨mark + a, mark + b⟩]]
  | k + 1, mark, a, b =>
    let block := 64 ^ (k + 1)
    let within (digit lo hi : Nat) :=
      (split k continuation lo hi).map (⟨mark + digit, mark + digit⟩ :: ·)
    if a / block = b / block then within (a / block) (a % block) (b % block)
    else
      let ragged := a % block ≠ 0
      let first := if ragged then a / block + 1 else a / block
      let next := if b % block = block - 1 then b / block + 1 else b / block
      (if ragged then within (a / block) (a % block) (block - 1) else []) ++
        (if first < next then
          [⟨mark + first, mark + next - 1⟩ :: List.replicate (k + 1) anyContinuation]
        else []) ++
        (if b % block = block - 1 then [] else within (b / block) 0 (b % block))

/-- The code points that are encoded alike: the range, the mark of the first byte, and how many
continuation bytes follow. -/
def lengths : List (Range × Nat × Nat) :=
  [(⟨0, 0x7f⟩, 0, 0), (⟨0x80, 0x7ff⟩, 0xc0, 1), (⟨0x800, 0xffff⟩, 0xe0, 2),
    (⟨0x10000, 0x10ffff⟩, 0xf0, 3)]

/-- The sequences for a range of characters. -/
def ofRange (r : Range) : List ByteSequence :=
  lengths.flatMap fun (codes, mark, k) =>
    match r.common? codes with
    | some r => split k mark r.first r.last
    | none => []

/-- The sequences for a set of characters, in increasing order. -/
def ofSet (s : CharSet) : List ByteSequence := s.flatMap ofRange

/-- The first ranges of some sequences, each with what follows it. Sequences that start alike stand
next to each other and share their first range. -/
def branches : List ByteSequence → List (Range × List ByteSequence)
  | [] => []
  | [] :: ss => branches ss
  | (r :: s) :: ss =>
    match branches ss with
    | [] => [(r, [s])]
    | (q, tails) :: others =>
      if r = q then (r, s :: tails) :: others else (r, [s]) :: (q, tails) :: others

/-- How many ways there are to start some of the sequences: the branches of the tree that they
form. No sequence is longer than `fuel`. -/
def countStarts : Nat → List ByteSequence → Nat
  | 0, _ => 0
  | fuel + 1, ss => ((branches ss).map fun (_, tails) => 1 + countStarts fuel tails).sum

/-- What may be left to read at some point of reading one of the sequences, as long as something
is left. No sequence is longer than `fuel`. -/
def remainders : Nat → List ByteSequence → List (List ByteSequence)
  | 0, _ => []
  | fuel + 1, ss =>
    match branches ss with
    | [] => []
    | bs => ss :: bs.flatMap fun (_, tails) => remainders fuel tails

/-- The most bytes that a character takes. -/
def maxLength : Nat := 4

end ByteSequence

end Tickscript.Text
