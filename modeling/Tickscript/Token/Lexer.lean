import Tickscript.Literal.Duration
import Tickscript.Text.Letter
import Tickscript.Token.Trivia

/-!
# From source to tokens

The lexer of sections 4.1 and 10.2 of the specification. `Lexer.next` takes one token off the front
of a source, with the comments before it. Scanning never fails: malformed input becomes a token of
kind `error`, which is either one character that starts no token or, for a construct that is never
closed, all that is left. `tokenize` collects the tokens up to and including the end of input.

A slash opens a regex only where no operand can have ended (`regexMayFollow`); after an operand it
divides.
-/

namespace Tickscript

/-- A token at the front of a source: its kind and text, the characters it takes up, and what
follows them. -/
structure Lexeme where
  kind : Kind
  text : String
  taken : List Char
  rest : List Char
deriving Repr, DecidableEq

namespace Lexeme

/-- A token whose text is what it takes up. -/
def verbatim (kind : Kind) (taken rest : List Char) : Lexeme :=
  ⟨kind, String.ofList taken, taken, rest⟩

/-- A construct that is never closed takes up all that is left. -/
def unterminated (what : String) (cs : List Char) : Lexeme :=
  ⟨.error, "unterminated " ++ what, cs, []⟩

/-- The first `width` characters of `cs`, as a token. -/
def front (kind : Kind) (width : Nat) (cs : List Char) : Lexeme :=
  verbatim kind (cs.take width) (cs.drop width)

end Lexeme

namespace Lexer

/-- Whether a slash after a token of this kind opens a regex. -/
def regexMayFollow : Option Kind → Bool
  | none | some .regexEq | some .regexNotEq | some .lParen | some .comma | some .assign
  | some .lBracket => true
  | _ => false

/-- Cuts after the first `quote` that no backslash precedes. -/
def untilQuote? (quote : Char) : List Char → Option (List Char × List Char)
  | [] => none
  | [c] => if c = '\\' then none else if c = quote then some ([c], []) else none
  | c :: d :: cs =>
    if c = '\\' then (untilQuote? quote cs).map fun (body, rest) => (c :: d :: body, rest)
    else if c = quote then some ([c], d :: cs)
    else (untilQuote? quote (d :: cs)).map fun (body, rest) => (c :: body, rest)

/-- Cuts after the first three single quotes in a row. -/
def untilTriple? : List Char → Option (List Char × List Char)
  | '\'' :: '\'' :: '\'' :: cs => some (['\'', '\'', '\''], cs)
  | [] => none
  | c :: cs => (untilTriple? cs).map fun (body, rest) => (c :: body, rest)

/-- A literal between two `quote` characters, the first of which is the head of `cs`. -/
def quotedLiteral (kind : Kind) (what : String) (quote : Char) (cs : List Char) : Lexeme :=
  match untilQuote? quote (cs.drop 1) with
  | some (body, rest) => .verbatim kind (quote :: body) rest
  | none => .unterminated what cs

/-- A string between triple quotes, the first three characters of `cs`. -/
def tripleLiteral (cs : List Char) : Lexeme :=
  match untilTriple? (cs.drop 3) with
  | some (body, rest) => .verbatim .string ('\'' :: '\'' :: '\'' :: body) rest
  | none => .unterminated "string" cs

/-- Whether `c` may stand in a name after its first character. -/
def isNamePart (c : Char) : Bool := Text.isLetterOrDigit c || c == '_'

/-- Whether `c` may start a name. -/
def isNameStart (c : Char) : Bool := Text.isLetter c || c == '_'

/-- Whether `c` may stand in a number or a duration after its first digit. -/
def isNumberPart (c : Char) : Bool := c.isAlphanum || c == '_' || c == '.' || c == 'µ'

/-- The kind of the token that a word is: a keyword, or else an identifier. -/
def wordKind (word : String) : Kind :=
  match word with
  | "var" => .var
  | "dbrp" => .dbrp
  | "stream" => .stream
  | "batch" => .batch
  | "lambda" => .lambda
  | "TRUE" => .boolean
  | "FALSE" => .boolean
  | "AND" => .and
  | "OR" => .or
  | "NOT" => .not
  | _ => .identifier

/-- The name or keyword at the front of `cs`. -/
def word (cs : List Char) : Lexeme :=
  let taken := cs.takeWhile isNamePart
  .verbatim (wordKind (String.ofList taken)) taken (cs.dropWhile isNamePart)

/-- The number or duration at the front of `cs`. What is no duration is a number, whether it can
be read as one or not. -/
def quantity (cs : List Char) : Lexeme :=
  let taken := cs.takeWhile isNumberPart
  let kind := if (Duration.split? taken).isSome then .duration else .number
  .verbatim kind taken (cs.dropWhile isNumberPart)

/-- The kind and the width of the operator or delimiter that starts with `c`, given the character
after it. -/
def symbol? (c : Char) (next : Option Char) : Option (Kind × Nat) :=
  match c with
  | '/' => some (.slash, 1)
  | '|' => some (.pipe, 1)
  | '.' => some (.dot, 1)
  | '@' => some (.atSign, 1)
  | ',' => some (.comma, 1)
  | ':' => some (.colon, 1)
  | '(' => some (.lParen, 1)
  | ')' => some (.rParen, 1)
  | '[' => some (.lBracket, 1)
  | ']' => some (.rBracket, 1)
  | '+' => some (.plus, 1)
  | '-' => some (.minus, 1)
  | '*' => some (.star, 1)
  | '%' => some (.percent, 1)
  | '=' =>
    if next = some '=' then some (.eqEq, 2)
    else if next = some '~' then some (.regexEq, 2)
    else some (.assign, 1)
  | '!' =>
    if next = some '=' then some (.notEq, 2)
    else if next = some '~' then some (.regexNotEq, 2)
    else some (.not, 1)
  | '<' => if next = some '=' then some (.ltEq, 2) else some (.lt, 1)
  | '>' => if next = some '=' then some (.gtEq, 2) else some (.gt, 1)
  | _ => none

/-- A quoted literal comes off the front with nothing lost. -/
theorem eq_append_of_untilQuote? {quote : Char} {cs body rest : List Char}
    (h : untilQuote? quote cs = some (body, rest)) : cs = body ++ rest := by
  fun_induction untilQuote? quote cs generalizing body rest with
  | case1 => simp at h
  | case2 => simp at h
  | case3 =>
    simp only [Option.some.injEq, Prod.mk.injEq] at h
    obtain ⟨rfl, rfl⟩ := h
    rfl
  | case4 => simp at h
  | case5 d cs ih =>
    obtain ⟨⟨body', rest'⟩, hb, heq⟩ := Option.map_eq_some_iff.1 h
    simp only [Prod.mk.injEq] at heq
    obtain ⟨rfl, rfl⟩ := heq
    simp [← ih hb]
  | case6 =>
    simp only [Option.some.injEq, Prod.mk.injEq] at h
    obtain ⟨rfl, rfl⟩ := h
    rfl
  | case7 c d cs _ _ ih =>
    obtain ⟨⟨body', rest'⟩, hb, heq⟩ := Option.map_eq_some_iff.1 h
    simp only [Prod.mk.injEq] at heq
    obtain ⟨rfl, rfl⟩ := heq
    simp [← ih hb]

/-- A verbatim string comes off the front with nothing lost. -/
theorem eq_append_of_untilTriple? {cs body rest : List Char}
    (h : untilTriple? cs = some (body, rest)) : cs = body ++ rest := by
  fun_induction untilTriple? cs generalizing body rest with
  | case1 cs =>
    simp only [Option.some.injEq, Prod.mk.injEq] at h
    obtain ⟨rfl, rfl⟩ := h
    rfl
  | case2 => simp at h
  | case3 c cs _ ih =>
    obtain ⟨⟨body', rest'⟩, hb, heq⟩ := Option.map_eq_some_iff.1 h
    simp only [Prod.mk.injEq] at heq
    obtain ⟨rfl, rfl⟩ := heq
    simp [← ih hb]

/-- The token at the front of `cs`, which starts with no blank and with no complete comment. -/
def scan (regexAllowed : Bool) (cs : List Char) : Lexeme :=
  match cs with
  | [] => ⟨.eof, "", [], []⟩
  | c :: tl =>
    if c = '/' ∧ tl.head? = some '*' then .unterminated "block comment" cs
    else if c = '/' ∧ regexAllowed then quotedLiteral .regex "regex" '/' cs
    else if c = '\'' then
      if tl.take 2 = ['\'', '\''] then tripleLiteral cs else quotedLiteral .string "string" '\'' cs
    else if c = '"' then quotedLiteral .reference "reference" '"' cs
    else
      match symbol? c tl.head? with
      | some (kind, width) => .front kind width cs
      | none =>
        if isNameStart c then word cs
        else if c.isDigit then quantity cs
        else ⟨.error, "unexpected character " ++ Text.quotedChar c, [c], tl⟩

/-- A lexeme is the front of the source it was scanned from, and at least one character of it. -/
def IsFront (cs : List Char) (x : Lexeme) : Prop :=
  x.taken ++ x.rest = cs ∧ x.taken ≠ []

theorem isFront_quotedLiteral (kind : Kind) (what : String) (quote : Char) (cs : List Char) :
    IsFront (quote :: cs) (quotedLiteral kind what quote (quote :: cs)) := by
  unfold quotedLiteral
  split
  · next body rest h => simp [IsFront, Lexeme.verbatim, ← eq_append_of_untilQuote? h]
  · simp [IsFront, Lexeme.unterminated]

theorem isFront_tripleLiteral (cs : List Char) :
    IsFront ('\'' :: '\'' :: '\'' :: cs) (tripleLiteral ('\'' :: '\'' :: '\'' :: cs)) := by
  unfold tripleLiteral
  split
  · next body rest h => simp [IsFront, Lexeme.verbatim, ← eq_append_of_untilTriple? h]
  · simp [IsFront, Lexeme.unterminated]

/-- A run of characters is taken off the front. -/
theorem isFront_takeWhile (kind : Kind) (p : Char → Bool) {c : Char} (cs : List Char)
    (hc : p c = true) :
    IsFront (c :: cs) (.verbatim kind ((c :: cs).takeWhile p) ((c :: cs).dropWhile p)) := by
  simp [IsFront, Lexeme.verbatim, List.takeWhile_append_dropWhile, hc]

theorem width_pos_of_symbol? {c : Char} {next : Option Char} {kind : Kind} {width : Nat}
    (h : symbol? c next = some (kind, width)) : 0 < width := by
  unfold symbol? at h
  repeat' split at h
  all_goals simp_all
  all_goals omega

/-- So many characters are taken off the front. -/
theorem isFront_front (kind : Kind) (c : Char) (cs : List Char) {width : Nat}
    (h : 0 < width) : IsFront (c :: cs) (.front kind width (c :: cs)) := by
  obtain ⟨n, rfl⟩ : ∃ n, width = n + 1 := ⟨width - 1, by omega⟩
  simp [IsFront, Lexeme.front, Lexeme.verbatim]

theorem isNamePart_of_isNameStart {c : Char} (h : isNameStart c = true) : isNamePart c = true := by
  simp only [isNameStart, isNamePart, Text.isLetterOrDigit, Bool.or_eq_true] at *
  rcases h with h | h <;> simp [h]

theorem isNumberPart_of_isDigit {c : Char} (h : c.isDigit = true) : isNumberPart c = true := by
  simp [isNumberPart, Char.isAlphanum, h]

/-- Scanning a source that is not at its end takes something off its front, and loses nothing. -/
theorem isFront_scan (regexAllowed : Bool) (c : Char) (cs : List Char) :
    IsFront (c :: cs) (scan regexAllowed (c :: cs)) := by
  unfold scan
  dsimp only
  split
  · simp [IsFront, Lexeme.unterminated]
  · split
    · next h => obtain ⟨rfl, -⟩ := h; exact isFront_quotedLiteral ..
    · split
      · next h =>
        subst h
        split
        · next h2 =>
          match cs, h2 with
          | a :: b :: cs, h2 =>
            simp only [List.take_succ_cons, List.take_zero, List.cons.injEq, and_true] at h2
            obtain ⟨rfl, rfl⟩ := h2
            exact isFront_tripleLiteral cs
        · exact isFront_quotedLiteral ..
      · split
        · next h => subst h; exact isFront_quotedLiteral ..
        · split
          · next h => exact isFront_front _ _ _ (width_pos_of_symbol? h)
          · split
            · next h => exact isFront_takeWhile _ _ _ (isNamePart_of_isNameStart h)
            · split
              · next h => exact isFront_takeWhile _ _ _ (isNumberPart_of_isDigit h)
              · simp [IsFront]

/-- What is taken and what is left are the whole text. -/
theorem scan_append (regexAllowed : Bool) (cs : List Char) :
    (scan regexAllowed cs).taken ++ (scan regexAllowed cs).rest = cs := by
  cases cs with
  | nil => rfl
  | cons c cs => exact (isFront_scan regexAllowed c cs).1

end Lexer

/-- A source that has been read up to some place: what is left of it, where that starts, and the
kind of the token before it. -/
structure Lexer where
  rest : List Char
  position : Position
  last : Option Kind
deriving Repr, DecidableEq

namespace Lexer

/-- Before the first token of a source. -/
def start (source : String) : Lexer := ⟨source.toList, .start, none⟩

/-- The next token, with the comments in front of it, and the lexer after it. At the end of the
source the answer is the end of input, again and again. -/
def next (l : Lexer) : Token × Lexer :=
  let gap := Trivia.split l.rest
  let position := l.position.advance (Trivia.textOf gap.1)
  let lexeme := scan (regexMayFollow l.last) gap.2
  (⟨lexeme.kind, lexeme.text, position, Trivia.commentOf gap.1⟩,
    ⟨lexeme.rest, position.advance lexeme.taken, some lexeme.kind⟩)

/-- The next `n` tokens. -/
def take (l : Lexer) : Nat → List Token
  | 0 => []
  | n + 1 =>
    let step := l.next
    step.1 :: step.2.take n

/-- A token takes up part of the source, unless the source ends. -/
theorem next_rest_length_lt (l : Lexer) (h : l.next.1.kind ≠ .eof) :
    l.next.2.rest.length < l.rest.length := by
  have hgap := Trivia.split_length_le l.rest
  simp only [next] at h ⊢
  match hr : (Trivia.split l.rest).2 with
  | [] => rw [hr] at h; simp [scan] at h
  | c :: cs =>
    obtain ⟨happ, hne⟩ := isFront_scan (regexMayFollow l.last) c cs
    have hlen := congrArg List.length happ
    have hpos := List.length_pos_iff.2 hne
    rw [hr] at hgap
    simp only [List.length_append] at hlen
    omega

/-- The tokens from here on, up to and including the end of input. -/
def tokens (l : Lexer) : List Token :=
  let step := l.next
  if h : step.1.kind = .eof then [step.1]
  else
    have : step.2.rest.length < l.rest.length := next_rest_length_lt l h
    step.1 :: step.2.tokens
termination_by l.rest.length

end Lexer

/-- The tokens of a source, up to and including the end of input. -/
def tokenize (source : String) : List Token := (Lexer.start source).tokens

end Tickscript
