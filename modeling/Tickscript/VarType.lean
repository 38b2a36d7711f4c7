/-!
# Types of template variables

The type names that a declaration without a value may have (section 10.4 of the specification).
-/

namespace Tickscript

/-- The type of a variable that a template leaves open. -/
inductive VarType where
  | string | duration | int | float | bool | lambda | list | regex | star
deriving Repr, DecidableEq

namespace VarType

/-- The type with a given name. -/
def ofName? (name : String) : Option VarType :=
  match name with
  | "string" => some string
  | "duration" => some duration
  | "int" => some int
  | "float" => some float
  | "bool" => some bool
  | "lambda" => some lambda
  | "list" => some list
  | "regex" => some regex
  | "star" => some star
  | _ => none

/-- How the type is written. -/
def name : VarType → String
  | string => "string"
  | duration => "duration"
  | int => "int"
  | float => "float"
  | bool => "bool"
  | lambda => "lambda"
  | list => "list"
  | regex => "regex"
  | star => "star"

/-- A type is found again by its name. -/
theorem ofName?_name (t : VarType) : ofName? t.name = some t := by
  cases t <;> rfl

end VarType

end Tickscript
