import Tickscript.Text.Quoted

/-!
# What can be wrong with a literal

The errors of the literal interpreters in section 10.3 of the specification, and their wording.
-/

namespace Tickscript

/-- What is wrong with a regex: it does not stand between slashes, or its pattern does not compile,
for a reason that is given by whatever compiles patterns. -/
inductive RegexFault where
  | missingSlashes
  | rejected (reason : String)
deriving Repr, DecidableEq

/-- The wording of what is wrong with a regex. -/
def RegexFault.message : RegexFault → String
  | missingSlashes => "missing '/' delimiters"
  | rejected reason => reason

/-- Why the text of a literal has no value. Each cause keeps the offending text; a pattern is
kept as it was to be compiled, or raw if its slashes are missing. -/
inductive LiteralError where
  | illegalNumber (text : String)
  | invalidDuration (text : String)
  | invalidString (text : String)
  | invalidRegex (pattern : String) (fault : RegexFault)
deriving Repr, DecidableEq

/-- The wording of a literal error. -/
def LiteralError.message : LiteralError → String
  | illegalNumber text => "illegal number syntax: " ++ Text.quoted text
  | invalidDuration text => "invalid duration: " ++ Text.quoted text
  | invalidString text => "invalid string literal: " ++ Text.quoted text
  | invalidRegex pattern fault =>
    "invalid regex " ++ Text.quoted pattern ++ ": " ++ fault.message

end Tickscript
