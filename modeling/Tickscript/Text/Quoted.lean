import Tickscript.Text.Concealed

/-!
# Quoted text in messages

Messages show a piece of source between quotes. Tabs, line ends, the null character, the
backslash and the quote itself get a backslash; a concealed character becomes `\u{…}` with its
code point in hexadecimal; everything else stands as it is.
-/

namespace Tickscript.Text

/-- `n` in lower-case hexadecimal, without leading zeros. -/
def hex (n : Nat) : String :=
  String.ofList (Nat.toDigits 16 n)

/-- How `c` is written between two `quote` characters in a message. -/
def escapeChar (quote c : Char) : String :=
  if c = '\x00' then "\\0"
  else if c = '\t' then "\\t"
  else if c = '\r' then "\\r"
  else if c = '\n' then "\\n"
  else if c = '\\' || c = quote then String.ofList ['\\', c]
  else if isConcealed c then "\\u\x7b" ++ hex c.toNat ++ "\x7d"
  else c.toString

/-- A piece of text as messages show it, between double quotes. -/
def quoted (s : String) : String :=
  "\"" ++ String.join (s.toList.map (escapeChar '"')) ++ "\""

/-- A single character as messages show it, between single quotes. -/
def quotedChar (c : Char) : String :=
  "'" ++ escapeChar '\'' c ++ "'"

end Tickscript.Text
