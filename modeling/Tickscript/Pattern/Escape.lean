import Tickscript.Text.Blank
import Tickscript.Text.CharSet
import Tickscript.Text.Digits
import Tickscript.Text.Word

/-!
# Escapes in regular expressions

What a backslash and the characters after it stand for: a character, a set of characters, or an
assertion about the place between two characters.
-/

namespace Tickscript.Pattern

/-- What has to hold of a place in the text, without a character being taken. -/
inductive Assertion where
  | textStart
  | textEnd
  | wordBoundary
  | noWordBoundary
  | wordStart
  | wordEnd
  | wordStartHalf
  | wordEndHalf
deriving Repr, DecidableEq

/-- What an escape stands for. -/
inductive Item where
  | char (c : Char)
  | set (chars : Text.CharSet)
  | assertion (kind : Assertion)
deriving Repr, DecidableEq

/-- Punctuation and controls may always be escaped; angle brackets mark word boundaries. -/
def isEscapable (c : Char) : Bool :=
  c.toNat < 0x80 && !c.isAlphanum && c != '<' && c != '>'

/-- The kinds of word boundary that may be named after `\b`. -/
def boundaryNames : List (String × Assertion) :=
  [("start", .wordStart), ("end", .wordEnd), ("start-half", .wordStartHalf),
    ("end-half", .wordEndHalf)]

/-- Whether `c` may stand in the name of a word boundary. -/
def isBoundaryName (c : Char) : Bool := c.isAlpha || c == '-'

/-- What `\b` stands for: any word boundary, or the kind that is named in braces after it. A brace
that no name follows is left to count a repetition. -/
def boundary? (cs : List Char) : Option (Assertion × List Char) :=
  match cs with
  | '{' :: c :: tl =>
    if isBoundaryName c then
      match (c :: tl).dropWhile isBoundaryName with
      | '}' :: rest =>
        (boundaryNames.lookup (String.ofList ((c :: tl).takeWhile isBoundaryName))).map (·, rest)
      | _ => none
    else some (.wordBoundary, cs)
  | ['{'] => none
  | _ => some (.wordBoundary, cs)

/-- A code point after `\x`, `\u` or `\U`: as many digits as the letter asks for, or any number of
them in braces. -/
def hexEscape? (width : Nat) (cs : List Char) : Option (Item × List Char) :=
  match cs with
  | '{' :: tl =>
    match tl.dropWhile (· ≠ '}') with
    | '}' :: rest => (Text.codePoint? (tl.takeWhile (· ≠ '}'))).map fun c => (.char c, rest)
    | _ => none
  | _ =>
    if cs.length < width then none
    else (Text.codePoint? (cs.take width)).map fun c => (.char c, cs.drop width)

/-- What a backslash and the characters after it stand for, and what follows them. -/
def escape? : List Char → Option (Item × List Char)
  | [] => none
  | c :: cs =>
    if isEscapable c then some (.char c, cs)
    else
      match c with
      | 'd' => some (.set Text.decimalDigits, cs)
      | 'D' => some (.set (Text.CharSet.complement Text.decimalDigits), cs)
      | 's' => some (.set Text.whiteSpace, cs)
      | 'S' => some (.set (Text.CharSet.complement Text.whiteSpace), cs)
      | 'w' => some (.set Text.wordChars, cs)
      | 'W' => some (.set (Text.CharSet.complement Text.wordChars), cs)
      | 'a' => some (.char '\x07', cs)
      | 'f' => some (.char '\x0c', cs)
      | 't' => some (.char '\t', cs)
      | 'n' => some (.char '\n', cs)
      | 'r' => some (.char '\r', cs)
      | 'v' => some (.char '\x0b', cs)
      | 'A' => some (.assertion .textStart, cs)
      | 'z' => some (.assertion .textEnd, cs)
      | 'B' => some (.assertion .noWordBoundary, cs)
      | '<' => some (.assertion .wordStart, cs)
      | '>' => some (.assertion .wordEnd, cs)
      | 'b' => (boundary? cs).map fun (kind, rest) => (.assertion kind, rest)
      | 'x' => hexEscape? 2 cs
      | 'u' => hexEscape? 4 cs
      | 'U' => hexEscape? 8 cs
      | _ => none

end Tickscript.Pattern
