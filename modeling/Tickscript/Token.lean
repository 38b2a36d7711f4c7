import Tickscript.Position
import Tickscript.Text.Quoted

/-!
# Tokens

The words of a script (sections 3 and 10.2 of the specification). A token keeps its text as written,
delimiters included; what a literal stands for is found later. Blanks leave no trace, and a comment
travels with the token after it.
-/

namespace Tickscript

/-- The lines of the comments in front of a token, without comment marks. -/
abbrev Comment := List String

/-- What a token is. Malformed input is a kind of its own, so that scanning never stops early. -/
inductive Kind where
  | number | duration | string | reference | regex | boolean
  | identifier | var | dbrp | stream | batch | lambda
  | assign | eqEq | notEq | lt | gt | ltEq | gtEq | regexEq | regexNotEq
  | plus | minus | star | slash | percent | and | or | not
  | pipe | dot | atSign
  | comma | colon | lParen | rParen | lBracket | rBracket
  | comment | error | eof
deriving Repr, DecidableEq

namespace Kind

/-- How messages name a kind of token. -/
def describe : Kind → String
  | number => "number"
  | duration => "duration"
  | string => "string"
  | reference => "reference"
  | regex => "regex"
  | boolean => "boolean"
  | identifier => "identifier"
  | var => "'var'"
  | dbrp => "'dbrp'"
  | stream => "'stream'"
  | batch => "'batch'"
  | lambda => "'lambda'"
  | assign => "'='"
  | eqEq => "'=='"
  | notEq => "'!='"
  | lt => "'<'"
  | gt => "'>'"
  | ltEq => "'<='"
  | gtEq => "'>='"
  | regexEq => "'=~'"
  | regexNotEq => "'!~'"
  | plus => "'+'"
  | minus => "'-'"
  | star => "'*'"
  | slash => "'/'"
  | percent => "'%'"
  | and => "'AND'"
  | or => "'OR'"
  | not => "'!'"
  | pipe => "'|'"
  | dot => "'.'"
  | atSign => "'@'"
  | comma => "','"
  | colon => "':'"
  | lParen => "'('"
  | rParen => "')'"
  | lBracket => "'['"
  | rBracket => "']'"
  | comment => "comment"
  | error => "error"
  | eof => "end of input"

end Kind

/-- One word of a script. The text of a malformed token says what is wrong with it. -/
structure Token where
  kind : Kind
  text : String
  position : Position
  comment : Option Comment := none
deriving Repr, DecidableEq

namespace Token

/-- The end of a script, at `p`. -/
def endAt (p : Position) : Token := ⟨.eof, "", p, none⟩

/-- How messages show a token. -/
def describe (t : Token) : String :=
  match t.kind with
  | .eof => "end of input"
  | .error => "error: " ++ t.text
  | k => k.describe ++ " " ++ Text.quoted t.text

end Token

end Tickscript
