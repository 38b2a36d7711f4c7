import Tickscript.Wire.Yaml.Scalar

/-!
# Tokens of YAML documents

Indentation opens and closes blocks, so the tokens include the ends of blocks that nothing in the
text marks. A key is known to be one only when the colon after it is met; the token that announces
it is then put in front of the key (`Scanner.announceKey`).

Directives, anchors, aliases and tags are refused.
-/

namespace Tickscript.Wire.Yaml

/-- A token of a document. -/
inductive Token where
  | documentStart | documentEnd | streamEnd
  | blockSequence | blockMapping | blockEnd
  | flowSequence | flowSequenceEnd | flowMapping | flowMappingEnd | flowEntry
  | blockEntry | key | value
  | scalar (plain : Bool) (text : String)
deriving Repr, DecidableEq

/-- Where a key may have begun: the number of its first token and its place. A key is needed if
nothing else may stand at the indentation of its block. -/
structure KeyStart where
  number : Nat
  needed : Bool
  index : Nat
  line : Nat
  column : Nat
deriving Repr, DecidableEq

/-- A document that has been read up to some place. Tokens and indentations have the newest first;
`keys` holds, for each open flow collection and for the block around them all, where a key may
have begun. -/
structure Scanner where
  place : Place
  tokens : List Token := []
  indent : Int := -1
  indents : List Int := []
  keyAllowed : Bool := true
  keys : List (Option KeyStart) := [none]
  done : Bool := false

namespace Scanner

/-- The number of open flow collections. -/
def flowLevel (s : Scanner) : Nat := s.keys.length - 1

/-- Whether a flow collection is open. -/
def inFlow (s : Scanner) : Bool := s.flowLevel != 0

/-- Adds a token. -/
def push (s : Scanner) (t : Token) : Scanner := { s with tokens := t :: s.tokens }

/-- Adds a token that takes up `n` characters. -/
def pushMark (s : Scanner) (t : Token) (n : Nat) : Scanner :=
  { s with tokens := t :: s.tokens, place := s.place.skipBy n }

/-- Puts a token in front of the token with a given number. -/
def insert (s : Scanner) (number : Nat) (t : Token) : Scanner :=
  { s with tokens := s.tokens.insertIdx (s.tokens.length - number) t }

/-- Where a key may have begun at the current level. -/
def keyStart? (s : Scanner) : Option KeyStart := s.keys.head?.join

/-- Replaces where a key may have begun at the current level. -/
def setKey (s : Scanner) (k : Option KeyStart) : Scanner := { s with keys := k :: s.keys.drop 1 }

/-- Gives up the key that may have begun, which fails if it is needed. -/
def dropKey (s : Scanner) : Option Scanner :=
  match s.keyStart? with
  | some k => if k.needed then none else some (s.setKey none)
  | none => some s

/-- Notes that a key may begin here. -/
def saveKey (s : Scanner) : Option Scanner :=
  if s.keyAllowed then
    s.dropKey.map fun s =>
      s.setKey (some ⟨s.tokens.length, !s.inFlow && s.indent == s.place.column, s.place.index,
        s.place.line, s.place.column⟩)
  else some s

/-- Whether a key that began at `k` can still be one here: a key stays on one line and within a
thousand characters or so. -/
def keyAlive (s : Scanner) (k : KeyStart) : Bool :=
  !(k.line < s.place.line) && !(k.index + 1024 < s.place.index)

/-- Forgets the keys that cannot be keys any more, which fails if one is needed. -/
def expireKeys (s : Scanner) : Option Scanner :=
  let isLost (k : Option KeyStart) : Bool := k.any fun k => !s.keyAlive k
  if s.keys.any fun k => isLost k && k.any (·.needed) then none
  else some { s with keys := s.keys.map fun k => if isLost k then none else k }

/-- Opens a block at a column deeper than the current one, with a token in front of the token
with a given number, or at the end. -/
def openBlock (s : Scanner) (column : Nat) (number : Option Nat) (t : Token) : Scanner :=
  if s.inFlow || !(s.indent < column) then s
  else
    let s := { s with indents := s.indent :: s.indents, indent := column }
    match number with
    | some n => s.insert n t
    | none => s.push t

/-- Closes the blocks that are deeper than a column. -/
def closeBlocks (column : Int) : List Int → Scanner → Scanner
  | [], s => s
  | outer :: indents, s =>
    if s.inFlow || !(column < s.indent) then s
    else closeBlocks column indents { s.push .blockEnd with indents := indents, indent := outer }

/-- Closes the blocks that are deeper than a column. -/
def unwind (s : Scanner) (column : Int) : Scanner := closeBlocks column s.indents s

/-- Skips spaces, comments and line breaks. In a block a line break is where a key may begin
again, and a tab may not stand where one can. -/
def skipGap : Nat → Scanner → Scanner
  | 0, s => s
  | n + 1, s =>
    match s.place.head? with
    | some ' ' => skipGap n { s with place := s.place.skip }
    | some '\t' =>
      if s.inFlow || !s.keyAllowed then skipGap n { s with place := s.place.skip } else s
    | some '#' => skipGap n { s with place := s.place.skipLine (s.place.rest.length + 1) }
    | some c =>
      if isBreak c then
        skipGap n
          { s with place := s.place.skipBreak, keyAllowed := s.keyAllowed || !s.inFlow }
      else s
    | none => s

/-- The end of the document text closes every block. -/
def fetchEnd (s : Scanner) : Option Scanner :=
  (s.unwind (-1)).dropKey.map fun s => { s.push .streamEnd with keyAllowed := false, done := true }

/-- A mark between documents closes every block. -/
def fetchMark (s : Scanner) (t : Token) : Option Scanner :=
  (s.unwind (-1)).dropKey.map fun s => { s.pushMark t 3 with keyAllowed := false }

/-- A bracket opens a flow collection, which may itself be a key. -/
def fetchFlowStart (s : Scanner) (t : Token) : Option Scanner :=
  s.saveKey.map fun s => { s.pushMark t 1 with keys := none :: s.keys, keyAllowed := true }

/-- A bracket closes a flow collection. -/
def fetchFlowEnd (s : Scanner) (t : Token) : Option Scanner :=
  s.dropKey.map fun s =>
    let keys := if s.inFlow then s.keys.drop 1 else s.keys
    { s.pushMark t 1 with keys := keys, keyAllowed := false }

/-- A comma separates the entries of a flow collection. -/
def fetchFlowEntry (s : Scanner) : Option Scanner :=
  s.dropKey.map fun s => { s.pushMark .flowEntry 1 with keyAllowed := true }

/-- A dash begins an entry of a block sequence. -/
def fetchBlockEntry (s : Scanner) : Option Scanner :=
  if !s.inFlow && !s.keyAllowed then none
  else
    (s.openBlock s.place.column none .blockSequence).dropKey.map fun s =>
      { s.pushMark .blockEntry 1 with keyAllowed := true }

/-- A question mark begins a key. -/
def fetchKey (s : Scanner) : Option Scanner :=
  if !s.inFlow && !s.keyAllowed then none
  else
    (s.openBlock s.place.column none .blockMapping).dropKey.map fun s =>
      { s.pushMark .key 1 with keyAllowed := !s.inFlow }

/-- Announces the key that began at `k`, and opens the mapping it belongs to. -/
def announceKey (s : Scanner) (k : KeyStart) : Scanner :=
  ((s.insert k.number .key).openBlock k.column (some k.number) .blockMapping).setKey none

/-- A colon begins a value. -/
def fetchValue (s : Scanner) : Option Scanner :=
  match s.keyStart? with
  | some k => some { (s.announceKey k).pushMark .value 1 with keyAllowed := false }
  | none =>
    if !s.inFlow && !s.keyAllowed then none
    else
      let s := s.openBlock s.place.column none .blockMapping
      some { s.pushMark .value 1 with keyAllowed := !s.inFlow }

/-- A block scalar. -/
def fetchBlockScalar (s : Scanner) (literal : Bool) : Option Scanner := do
  let s ← s.dropKey
  let (text, place) ← blockScalar literal s.indent s.place.skip
  return { s.push (.scalar false (String.ofList text)) with place := place, keyAllowed := true }

/-- A quoted scalar. -/
def fetchQuoted (s : Scanner) (single : Bool) : Option Scanner := do
  let s ← s.saveKey
  let (text, place) ← quotedScalar single (s.place.rest.length + 1) [] s.place.skip
  return { s.push (.scalar false (String.ofList text)) with place := place, keyAllowed := false }

/-- A plain scalar. -/
def fetchPlain (s : Scanner) : Option Scanner := do
  let s ← s.saveKey
  let (text, broken, place) ←
    plainScalar s.inFlow (s.indent + 1) (s.place.rest.length + 1) [] {} s.place
  return { s.push (.scalar true (String.ofList text)) with place := place, keyAllowed := broken }

/-- The characters that mark something other than a plain scalar, if nothing speaks for one. -/
def indicators : List Char :=
  ['-', '?', ':', ',', '[', ']', '\x7b', '\x7d', '#', '&', '*', '!', '|', '>', '\'', '"', '%',
    '@', '\x60']

/-- Whether a plain scalar may begin with `c` before `next`. -/
def beginsPlain (flow : Bool) (c : Char) (next : Option Char) : Bool :=
  !indicators.contains c && !isSpace c || (c == '-' && !next.any isSpace)
    || (!flow && (c == '?' || c == ':') && !endsWord next)

/-- Reads the next token. -/
def fetch (s : Scanner) : Option Scanner := do
  let s ← (skipGap (s.place.rest.length + 1) s).expireKeys
  let s := s.unwind s.place.column
  match s.place.head? with
  | none => s.fetchEnd
  | some c =>
    let next := s.place.peek 1
    if s.place.column = 0 ∧ c = '%' then none
    else if s.place.atMark '-' then s.fetchMark .documentStart
    else if s.place.atMark '.' then s.fetchMark .documentEnd
    else if c = '[' then s.fetchFlowStart .flowSequence
    else if c = '\x7b' then s.fetchFlowStart .flowMapping
    else if c = ']' then s.fetchFlowEnd .flowSequenceEnd
    else if c = '\x7d' then s.fetchFlowEnd .flowMappingEnd
    else if c = ',' then s.fetchFlowEntry
    else if c = '-' && endsWord next then s.fetchBlockEntry
    else if c = '?' && (s.inFlow || endsWord next) then s.fetchKey
    else if c = ':' && (s.inFlow || endsWord next) then s.fetchValue
    else if c = '|' && !s.inFlow then s.fetchBlockScalar true
    else if c = '>' && !s.inFlow then s.fetchBlockScalar false
    else if c = '\'' then s.fetchQuoted true
    else if c = '"' then s.fetchQuoted false
    else if beginsPlain s.inFlow c next then s.fetchPlain
    else none

/-- Reads tokens up to the end of the text. -/
def run : Nat → Scanner → Option Scanner
  | 0, _ => none
  | n + 1, s => if s.done then some s else s.fetch.bind (run n)

end Scanner

/-- The tokens of a document. A byte order mark in front of it is no part of it. -/
def tokenize (text : String) : Option (List Token) :=
  let cs := text.toList
  let cs := if cs.head? = some '\ufeff' then cs.drop 1 else cs
  if cs.all isAllowed then
    ((({ place := .start cs } : Scanner)).run (cs.length + 2)).map fun s => s.tokens.reverse
  else none

end Tickscript.Wire.Yaml
