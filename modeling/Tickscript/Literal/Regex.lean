import Tickscript.Literal.Error

/-!
# Regex literals

The regexes of sections 10.2 and 10.3 of the specification. A regex stands between slashes, and a
slash of its pattern is written with a backslash before it.

Nothing here matches text. A script only has to know of a pattern whether it compiles, and that is
decided outside of this library, by an `Engine`. Whatever reads regexes takes the engine as an
argument, so what is shown of it holds for every engine.
-/

namespace Tickscript.Regex

/-- What compiles patterns: it takes a pattern or gives a reason why not. -/
class Engine where
  compile : String → Except String Unit

/-- Every `\/` of a literal becomes a slash of the pattern. -/
def unescape : List Char → List Char
  | [] => []
  | [c] => [c]
  | c :: d :: cs => if c = '\\' ∧ d = '/' then '/' :: unescape cs else c :: unescape (d :: cs)

/-- Every slash of a pattern becomes `\/` in its literal. -/
def escape : List Char → List Char
  | [] => []
  | c :: cs => if c = '/' then '\\' :: '/' :: escape cs else c :: escape cs

/-- What stands between the slashes of a literal. -/
def inside? (cs : List Char) : Option (List Char) :=
  match cs with
  | '/' :: tl => if tl.getLast? = some '/' then some tl.dropLast else none
  | _ => none

/-- A pattern, which has to compile. -/
def compile [Engine] (pattern : String) : Except LiteralError String :=
  match Engine.compile pattern with
  | .ok () => .ok pattern
  | .error reason => .error (.invalidRegex pattern (.rejected reason))

/-- The pattern of a regex literal. -/
def read [Engine] (text : String) : Except LiteralError String :=
  match inside? text.toList with
  | none => .error (.invalidRegex text .missingSlashes)
  | some inside => compile (String.ofList (unescape inside))

/-- A regex literal for a pattern. -/
def literal (pattern : String) : String :=
  String.ofList ('/' :: escape pattern.toList ++ ['/'])

end Tickscript.Regex
