import Tickscript.Number.Shortest
import Tickscript.Text.Quoted
import Tickscript.Wire.Value

/-!
# Writing values as text

JSON over several lines: an entry or an element a line, two blanks deeper than its container, and
empty containers closed at once. Entries keep the order of the list. Strings escape the quote,
the backslash and the controls below the space, and nothing else.
-/

namespace Tickscript.Wire

/-- A character inside a JSON string. -/
def jsonChar (c : Char) : String :=
  if c = '"' then "\\\""
  else if c = '\\' then "\\\\"
  else if c = '\n' then "\\n"
  else if c = '\r' then "\\r"
  else if c = '\t' then "\\t"
  else if c = '\x08' then "\\b"
  else if c = '\x0c' then "\\f"
  else if c.toNat < 0x20 then
    "\\u00" ++ (if c.toNat < 0x10 then "0" else "") ++ Text.hex c.toNat
  else c.toString

/-- A JSON string. -/
def jsonString (s : String) : String :=
  "\"" ++ String.join (s.toList.map jsonChar) ++ "\""

/-- The start of a line at some level. -/
def newLine (level : Nat) : String :=
  "\n" ++ String.ofList (List.replicate (2 * level) ' ')

/-- Texts with commas between them, each on a line at some level. -/
def itemLines (level : Nat) : List String → String
  | [] => ""
  | [s] => newLine level ++ s
  | s :: ss => newLine level ++ s ++ "," ++ itemLines level ss

/-- The text of a container that holds the given texts. -/
def container (level : Nat) (opening closing : String) (items : List String) : String :=
  if items.isEmpty then opening ++ closing
  else opening ++ itemLines (level + 1) items ++ newLine level ++ closing

mutual

/-- A value at some level. Numbers are written without an exponent. -/
def Value.pretty (level : Nat) : Value → String
  | .null => "null"
  | .bool b => if b then "true" else "false"
  | .int n => toString n
  | .float x => (if x.isNegative then "-" else "") ++ x.render
  | .string s => jsonString s
  | .array items => container level "[" "]" (Value.prettyItems (level + 1) items)
  | .object entries =>
    container level "\x7b" "\x7d" (Value.prettyEntries (level + 1) entries)

/-- The elements of an array. -/
def Value.prettyItems (level : Nat) : List Value → List String
  | [] => []
  | v :: vs => v.pretty level :: Value.prettyItems level vs

/-- The entries of an object. -/
def Value.prettyEntries (level : Nat) : List (String × Value) → List String
  | [] => []
  | (k, v) :: es =>
    (jsonString k ++ ": " ++ v.pretty level) :: Value.prettyEntries level es

end

end Tickscript.Wire
