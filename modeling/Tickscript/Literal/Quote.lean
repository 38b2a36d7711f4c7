import Tickscript.Literal.Error

/-!
# Strings and references

The quoting rules of section 10.2 of the specification, which section 10.3 takes off again. A string
stands between single quotes, a reference between double quotes. Inside, a backslash takes the
meaning from the quote or the backslash after it and is an ordinary character before anything else.
A string between triple quotes is taken verbatim.
-/

namespace Tickscript.Quote

/-- The value of the inside of a quoted literal. -/
def unescape (quote : Char) : List Char → List Char
  | [] => []
  | [c] => [c]
  | c :: d :: cs =>
    if c = '\\' then
      if d = quote || d = '\\' then d :: unescape quote cs
      else '\\' :: d :: unescape quote cs
    else c :: unescape quote (d :: cs)

/-- The inside of the quoted literal for a value. -/
def escape (quote : Char) : List Char → List Char
  | [] => []
  | c :: cs =>
    if c = quote || c = '\\' then '\\' :: c :: escape quote cs else c :: escape quote cs

/-- A value between quotes. -/
def enclose (quote : Char) (value : String) : String :=
  String.ofList (quote :: escape quote value.toList ++ [quote])

/-- What stands between an opening and a closing mark. The marks may not overlap. -/
def between? (mark cs : List Char) : Option (List Char) :=
  if 2 * mark.length ≤ cs.length ∧ mark <+: cs ∧ mark <:+ cs then
    some ((cs.drop mark.length).take (cs.length - 2 * mark.length))
  else none

/-- The mark around a verbatim string. -/
def triple : List Char := ['\'', '\'', '\'']

/-- A string literal for `value`. -/
def string (value : String) : String := enclose '\'' value

/-- A reference to `name`. -/
def reference (name : String) : String := enclose '"' name

/-- A verbatim string literal for `value`. -/
def verbatim (value : String) : String :=
  String.ofList (triple ++ value.toList ++ triple)

/-- The value of a string literal, verbatim or not. -/
def readString (text : String) : Except LiteralError String :=
  match between? triple text.toList with
  | some inside => .ok (String.ofList inside)
  | none =>
    match between? ['\''] text.toList with
    | some inside => .ok (String.ofList (unescape '\'' inside))
    | none => .error (.invalidString text)

/-- The name in a reference. -/
def readReference (text : String) : Except LiteralError String :=
  match between? ['"'] text.toList with
  | some inside => .ok (String.ofList (unescape '"' inside))
  | none => .error (.invalidString text)

end Tickscript.Quote
