import Tickscript.Dbrp
import Tickscript.Pattern.Limits
import Tickscript.Proofs.LiteralFaults
import Tickscript.Proofs.ParsedTrees

/-!
# Literals between lexer and interpreter

The lexer only delimits literals, and what they stand for is found by an interpreter that looks at
the text again, with tests of its own. Here the two meet, from both sides.

What is written for a value is one token, and the interpreter finds the value in it. Writing puts a
backslash before every quote, and the lexer skips what a backslash protects, so a literal closes at
the quote that was written last. For a string between quotes there is one exception: two quotes with
nothing between them and a third one behind them open a verbatim string (`Quote.takes_string_iff`).

Backslashes of a pattern are not written twice, but its slashes are protected, and the lexer closes
a regex at the first slash that is not. So each slash inside of a scanned regex has a backslash of
its own, which reading takes off and writing puts back.

What the lexer gives as a literal, the interpreter takes: strings and references always have a
value, a regex always has its slashes, and a duration is refused only for its magnitude. Since
errors about literals come from nowhere else (`Program.refused_of_ofTokens`), no program fails
because of a string.
-/

namespace Tickscript

open Lexer (Spells regexMayFollow mayFollow KeepsApart)

/-! ## The next token -/

namespace Lexer

/-- The next token starts where the lexer stands, has this kind and this text, and leaves `rest` to
be scanned. -/
def Takes (l : Lexer) (k : Kind) (text : String) (rest : List Char) : Prop :=
  l.next = (⟨k, text, l.position, none⟩, ⟨rest, l.position.advance text.toList, some k⟩)

/-- What is scanned where no blank or comment stands is the next token. -/
theorem takes_of_scan {l : Lexer} {k : Kind} {text : String} {rest : List Char}
    (hfirst : Trivia.first? l.rest = none)
    (hscan : scan (regexMayFollow l.last) l.rest = .verbatim k text.toList rest) :
    l.Takes k text rest := by
  unfold Takes next
  rw [Trivia.split_eq_nil hfirst]
  simp only [hscan, Lexeme.verbatim, String.ofList_toList]
  rfl

/-- After a quote it depends on the next two characters which of the two kinds of strings it is. -/
theorem scan_quote (allowed : Bool) (cs : List Char) : scan allowed ('\'' :: cs) =
    if cs.take 2 = ['\'', '\''] then tripleLiteral ('\'' :: cs)
    else quotedLiteral .string "string" '\'' ('\'' :: cs) := by
  simp [scan]

/-- A verbatim string takes up its opening mark at least. -/
theorem length_rest_tripleLiteral (cs : List Char) :
    (tripleLiteral (Quote.triple ++ cs)).rest.length ≤ cs.length := by
  unfold tripleLiteral
  split
  · next body rest h =>
    have hlength := congrArg List.length (eq_append_of_untilTriple? h)
    simp only [Quote.triple, List.cons_append, List.drop_succ_cons, List.drop_zero,
      List.nil_append, List.length_append] at hlength
    show rest.length ≤ cs.length
    omega
  · exact Nat.zero_le _

/-- A text that spells a token is taken as that token, if it may follow the one before and what
comes behind it is kept apart. -/
theorem Spells.takes {k : Kind} {text : String} (h : Spells k text.toList) {last : Option Kind}
    (hlast : mayFollow last k = true) {rest : List Char} (hrest : KeepsApart k rest)
    (p : Position) : Takes ⟨text.toList ++ rest, p, last⟩ k text rest :=
  takes_of_scan (h.first?_eq_none hrest) (scan_spells h hlast hrest)

end Lexer

/-! ## Strings and references -/

namespace Quote

open Lexer (Takes scan)

/-- What is written for a quoted value is the escaped value between two quotes. -/
theorem toList_enclose (quote : Char) (v : String) :
    (enclose quote v).toList = quote :: (escape quote v.toList ++ [quote]) := by
  simp [enclose]

/-- Behind its first character, what is written for a string starts with two quotes only if the
string is empty and a quote follows. -/
theorem take_two_iff (v r : List Char) :
    (escape '\'' v ++ ['\''] ++ r).take 2 = ['\'', '\''] ↔ v = [] ∧ r.head? = some '\'' := by
  cases v with
  | nil =>
    cases r with
    | nil => simp [escape]
    | cons d r => simp [escape]
  | cons c v =>
    refine iff_of_false ?_ (by simp)
    rw [escape]
    split
    · simp
    · next hc =>
      -- a character that stands for itself is no quote
      simp only [Bool.or_eq_true, decide_eq_true_eq, not_or] at hc
      intro h
      simp only [List.cons_append, List.take_succ_cons, List.cons.injEq] at h
      exact hc.1 h.1

/-- The literal for a string is taken whole, unless it is empty and a quote follows. -/
theorem takes_string {v : String} {r : List Char} (h : v = "" → r.head? ≠ some '\'')
    (p : Position) (last : Option Kind) :
    Takes ⟨(string v).toList ++ r, p, last⟩ .string (string v) r := by
  have htext : (string v).toList ++ r = '\'' :: (escape '\'' v.toList ++ ['\''] ++ r) := by
    rw [string, toList_enclose]
    rfl
  have htwo : (escape '\'' v.toList ++ ['\''] ++ r).take 2 ≠ ['\'', '\''] := by
    intro htwo
    obtain ⟨hv, hr⟩ := (take_two_iff v.toList r).1 htwo
    exact h (String.toList_eq_nil_iff.1 hv) hr
  apply Lexer.takes_of_scan
  · show Trivia.first? ((string v).toList ++ r) = none
    rw [htext]
    exact Trivia.first?_eq_none (by decide) fun h => absurd h (by decide)
  · show scan _ ((string v).toList ++ r) = _
    rw [htext, Lexer.scan_quote, if_neg htwo, string, toList_enclose]
    exact Lexer.quotedLiteral_eq (closes_escape (by decide) v.toList)

/-- A third quote behind the two of the empty string would be left, but it belongs to the mark of a
verbatim string. -/
theorem not_takes_empty (r : List Char) (p : Position) (last : Option Kind) :
    ¬ Takes ⟨(string "").toList ++ '\'' :: r, p, last⟩ .string (string "") ('\'' :: r) := by
  have htext : (string "").toList ++ '\'' :: r = triple ++ r := rfl
  have hfirst : Trivia.first? (triple ++ r) = none :=
    Trivia.first?_eq_none (by decide) fun h => absurd h (by decide)
  have hscan : scan (regexMayFollow last) (triple ++ r) = Lexer.tripleLiteral (triple ++ r) :=
    (Lexer.scan_quote _ _).trans (if_pos rfl)
  intro htakes
  have hlength := congrArg (fun x => x.2.rest.length) htakes
  simp only [Lexer.next, htext, Trivia.split_eq_nil hfirst, hscan, List.length_cons] at hlength
  have hle := Lexer.length_rest_tripleLiteral r
  omega

/-- What is written for a string is scanned as one token, unless it is opened as a verbatim one. -/
theorem takes_string_iff (v : String) (r : List Char) (p : Position) (last : Option Kind) :
    Takes ⟨(string v).toList ++ r, p, last⟩ .string (string v) r ↔
      (v = "" → r.head? ≠ some '\'') := by
  constructor
  · intro htakes hv hhead
    subst hv
    obtain ⟨r, rfl⟩ := List.head?_eq_some_iff.1 hhead
    exact not_takes_empty r p last htakes
  · intro h
    exact takes_string h p last

/-- The literal for a reference is taken whole, whatever follows. -/
theorem takes_reference (v : String) (r : List Char) (p : Position) (last : Option Kind) :
    Takes ⟨(reference v).toList ++ r, p, last⟩ .reference (reference v) r :=
  (spells_reference v).takes rfl (fun _ _ => rfl) p

end Quote

/-! ## Databases and retention policies -/

/-- The first token stands at the start of a source that starts with a token. -/
theorem Cursor.position_ofList_tokenize {source : String}
    (h : Trivia.first? source.toList = none) :
    (ofList (tokenize source)).current.position = .start := by
  have hcurrent : (ofList (tokenize source)).current = (Lexer.start source).next.1 := by
    rw [tokenize]
    by_cases hk : (Lexer.start source).piece.kind = .eof
    · rw [Lexer.tokens_eof hk]
      rfl
    · rw [Lexer.tokens_cons hk]
      rfl
  rw [hcurrent, Lexer.next, Lexer.start, Trivia.split_eq_nil h]
  rfl

section Shown

variable [Regex.Engine]

/-- What is shown for a database and a retention policy is scanned as a `dbrp` line. -/
theorem Dbrp.shows_describe (d : Dbrp) :
    ∃ c, Cursor.Shows (.ofList (tokenize ("dbrp " ++ d.describe)))
        (DbrpLine.pieces 0 [] ⟨d.database, d.retentionPolicy, ⟨.start, none⟩⟩) c ∧
      c.current.kind = .eof ∧ c.current.comment = none := by
  -- these are the pieces of a written program, only without the line break behind them
  let p : Program := ⟨[⟨d.database, d.retentionPolicy, ⟨.start, none⟩⟩], [], none⟩
  have hwell : p.WellFormed Number.HasLiteral := by
    refine ⟨?_, ?_, ?_⟩ <;> simp [p, Comment.HasLines]
  have hsource : ("dbrp " ++ d.describe).toList =
      Piece.sourceOf (p.pieces 0) ++ Trivia.textOf [] := by
    simp [p, Program.pieces, Program.dbrpPieces, Program.statementPieces, DbrpLine.pieces, describe,
      Comment.textOf_gap, Comment.render]
  have hspaced : Spaced (p.pieces 0) (Trivia.textOf []) :=
    (@Program.spaced_dbrpPieces p.dbrps 0 [] [] fun _ h => by cases h).1
  exact tokenize_pieces hsource (p.spells_pieces hwell 0) hspaced
    (p.follows_pieces hwell.statements rfl 0) .nil

/-- What is shown for a database and a retention policy is read as this one pair. -/
theorem Dbrp.parse_describe (d : Dbrp) : Program.parse ("dbrp " ++ d.describe) =
    .ok ⟨[⟨d.database, d.retentionPolicy, ⟨.start, none⟩⟩], [], none⟩ := by
  obtain ⟨c, hshows, heof, hcomment⟩ := d.shows_describe
  have horigin : Origin.ofToken (Cursor.ofList (tokenize ("dbrp " ++ d.describe))).current =
      ⟨.start, none⟩ := by
    obtain ⟨-, -, hnone, -, -⟩ := hshows.cons_inv
    rw [Origin.ofToken, hnone, Cursor.position_ofList_tokenize]
    · rfl
    · rw [String.toList_append]
      exact Trivia.first?_eq_none (by decide) fun h => absurd h (by decide)
  -- behind the line the input ends, so there is no other line and no statement
  have hds := DbrpLine.derives_pieces hshows (.nil (by rw [heof]; decide))
  rw [Program.parse, Program.ofTokens, Program.reader_of_derives hds (.nil heof), horigin, hcomment]

/-- Quoting survives the lexer. What is written for a string or a reference is one token, whatever
follows, and its value is the one that was written; the two quotes of the empty string must not be
followed by a third one. So a pair of a database and a retention policy can be shown in a `dbrp`
line and is read from it unchanged. -/
theorem Quote.scans_back (v db rp : String) (r : List Char) (p : Position) (last : Option Kind) :
    (Lexer.Takes ⟨(string v).toList ++ r, p, last⟩ .string (string v) r ↔
      (v = "" → r.head? ≠ some '\'')) ∧
    readString (string v) = .ok v ∧
    Lexer.Takes ⟨(reference v).toList ++ r, p, last⟩ .reference (reference v) r ∧
    readReference (reference v) = .ok v ∧
    Program.parse ("dbrp " ++ (Dbrp.mk db rp).describe) =
      .ok ⟨[⟨db, rp, ⟨.start, none⟩⟩], [], none⟩ :=
  ⟨takes_string_iff v r p last, readString_string v, takes_reference v r p last,
    readReference_reference v, Dbrp.parse_describe ⟨db, rp⟩⟩

/-! ## Regexes -/

/-- A pattern is read back from its literal exactly if it compiles. -/
theorem Regex.read_literal_eq_ok_iff (pattern : String) :
    read (literal pattern) = .ok pattern ↔ Engine.compile pattern = .ok () := by
  rw [read_literal, compile_eq_ok_iff, and_iff_left rfl]

/-- Regexes are shown as they were written, whatever compiles patterns. For every regex of a source
whose pattern compiles, what is written for the pattern is the text of the token, so that it is
scanned as one regex again, wherever one is allowed, and has the same pattern. And what is written
for a pattern can be read exactly if the pattern compiles. -/
theorem Regex.literal_verbatim :
    (∀ source, ∀ t ∈ tokenize source, t.kind = .regex → ∀ pattern, read t.text = .ok pattern →
      literal pattern = t.text ∧ read (literal pattern) = .ok pattern ∧
      ∀ r p last, regexMayFollow last = true →
        Lexer.Takes ⟨(literal pattern).toList ++ r, p, last⟩ .regex (literal pattern) r) ∧
    ∀ pattern, read (literal pattern) = .ok pattern ↔ Engine.compile pattern = .ok () := by
  refine ⟨?_, read_literal_eq_ok_iff⟩
  intro source t ht hk pattern hread
  have hspells : Spells .regex t.text.toList := Token.spells_of_mem ht hk (by decide)
  obtain ⟨body, htext, hbody⟩ := hspells.regex_inv
  -- the inside of a scanned regex closes, so taking its backslashes off can be undone
  have hliteral : literal pattern = t.text := by
    rw [← String.toList_inj, htext]
    refine literal_of_read hbody ?_
    rwa [← htext, String.ofList_toList]
  rw [hliteral]
  exact ⟨rfl, hread, fun r p last hlast => hspells.takes hlast (fun _ _ => rfl) p⟩

end Shown

section Sample

attribute [local instance] Pattern.engine

/-- In this regex a backslash stands before an escaped slash. -/
theorem Regex.literal_verbatim_backslashes :
    let source := "a =~ /\\\\\\/b/"
    let pattern := "\\\\/b"
    ∃ t ∈ tokenize source, t.kind = .regex ∧ read t.text = .ok pattern ∧
      literal pattern = t.text ∧ Lexer.Takes (.start t.text) .regex t.text [] := by
  intro source pattern
  have htoken : ∃ t ∈ tokenize source, t.kind = .regex ∧ read t.text = .ok pattern := by
    decide +kernel
  obtain ⟨t, ht, hk, hread⟩ := htoken
  obtain ⟨hliteral, -, htakes⟩ := literal_verbatim.1 source t ht hk pattern hread
  have htakes := htakes [] .start none rfl
  rw [hliteral, List.append_nil] at htakes
  exact ⟨t, ht, hk, hread, hliteral, htakes⟩

end Sample

/-! ## Values of scanned literals -/

namespace Quote

/-- What is scanned as a string has a value. -/
theorem readString_of_spells {text : String} (h : Spells .string text.toList) :
    ∃ v, readString text = .ok v := by
  rw [readString]
  rcases h.string_inv with ⟨body, htext, hcloses⟩ | ⟨body, htext, hcloses⟩
  · obtain ⟨inside, hinside⟩ := hcloses.between?_eq
    rw [htext, hinside]
    -- the test for a verbatim string comes first, and here it does not matter what it says
    cases between? triple ('\'' :: body) with
    | some inside => exact ⟨_, rfl⟩
    | none => exact ⟨_, rfl⟩
  · obtain ⟨inside, -, hinside⟩ := hcloses.between?_eq
    rw [htext, hinside]
    exact ⟨_, rfl⟩

/-- What is scanned as a reference has a name in it. -/
theorem readReference_of_spells {text : String} (h : Spells .reference text.toList) :
    ∃ v, readReference text = .ok v := by
  obtain ⟨body, htext, hcloses⟩ := h.reference_inv
  obtain ⟨inside, hinside⟩ := hcloses.between?_eq
  rw [readReference, htext, hinside]
  exact ⟨_, rfl⟩

end Quote

section Values

variable [Regex.Engine]

/-- What is scanned as a regex has its slashes. -/
theorem Regex.read_ne_of_spells {text : String} (h : Spells .regex text.toList) (pattern : String) :
    read text ≠ .error (.invalidRegex pattern .missingSlashes) := by
  obtain ⟨body, htext, -⟩ := h.regex_inv
  rw [← String.ofList_toList (s := text), htext, read_enclosed]
  unfold compile
  split <;> simp

/-- No program fails because of a string or a reference. -/
theorem Program.fault_ne_invalidString {source : String} {e : SyntaxError}
    (h : parse source = .error e) (text : String) : e.fault ≠ .literal (.invalidString text) := by
  intro hfault
  obtain ⟨t, ht, -, hrefused⟩ := refused_of_ofTokens h hfault
  -- the token that is blamed would be a string or a reference, and these have values
  rcases hrefused.quoted with ⟨hk, herror⟩ | ⟨hk, herror⟩
  · obtain ⟨v, hv⟩ := Quote.readString_of_spells (Token.spells_of_mem ht hk (by decide))
    rw [hv] at herror
    cases herror
  · obtain ⟨v, hv⟩ := Quote.readReference_of_spells (Token.spells_of_mem ht hk (by decide))
    rw [hv] at herror
    cases herror

/-- The lexer and the interpreters agree about literals. Every string and every reference of a
source has a value, and every regex its slashes. A duration is a magnitude and a unit, and it has a
value exactly if the magnitude has no point in it and the product fits in 64 bits. So no program
fails because of an invalid string. -/
theorem tokenize_literals (source : String) :
    (∀ t ∈ tokenize source,
      (t.kind = .string → ∃ v, Quote.readString t.text = .ok v) ∧
      (t.kind = .reference → ∃ v, Quote.readReference t.text = .ok v) ∧
      (t.kind = .regex → ∀ pattern,
        Regex.read t.text ≠ .error (.invalidRegex pattern .missingSlashes)) ∧
      (t.kind = .duration → ∃ magnitude, ∃ u ∈ Duration.units,
        t.text.toList = magnitude ++ u.name ∧ magnitude ≠ [] ∧
        (∀ c ∈ magnitude, Duration.isMagnitude c = true) ∧
        ∀ v, Duration.read t.text = .ok v ↔ '.' ∉ magnitude ∧
          Text.decimal magnitude * u.micros < 2 ^ 64 ∧ v = Text.decimal magnitude * u.micros)) ∧
    ∀ e, Program.parse source = .error e → ∀ text, e.fault ≠ .literal (.invalidString text) := by
  refine ⟨fun t ht => ⟨fun hk => ?_, fun hk => ?_, fun hk => ?_, fun hk => ?_⟩, ?_⟩
  · exact Quote.readString_of_spells (Token.spells_of_mem ht hk (by decide))
  · exact Quote.readReference_of_spells (Token.spells_of_mem ht hk (by decide))
  · exact Regex.read_ne_of_spells (Token.spells_of_mem ht hk (by decide))
  · have hspells : Spells .duration t.text.toList := Token.spells_of_mem ht hk (by decide)
    obtain ⟨magnitude, u, hsplit⟩ := hspells.duration_inv
    obtain ⟨htext, hu, hne, hmagnitude⟩ := Duration.eq_append_of_split? hsplit
    exact ⟨magnitude, u, hu, htext, hne, hmagnitude, Duration.read_eq_ok_iff hsplit⟩
  · intro e he text
    exact Program.fault_ne_invalidString he text

end Values

section Sample

attribute [local instance] Pattern.engine

/-- A source with a literal of each kind. It fails, because of its duration. -/
theorem tokenize_literals_each :
    let source := "dbrp 'a'.\"b\" c =~ /d/ 1.5h"
    (∃ t ∈ tokenize source, t.kind = .string ∧ ∃ v, Quote.readString t.text = .ok v) ∧
    (∃ t ∈ tokenize source, t.kind = .reference ∧ ∃ v, Quote.readReference t.text = .ok v) ∧
    (∃ t ∈ tokenize source, t.kind = .regex ∧ ∀ pattern,
      Regex.read t.text ≠ .error (.invalidRegex pattern .missingSlashes)) ∧
    (∃ t ∈ tokenize source, t.kind = .duration ∧ ∃ magnitude, ∃ u ∈ Duration.units,
      t.text.toList = magnitude ++ u.name ∧
      ∀ v, Duration.read t.text = .ok v → '.' ∉ magnitude) ∧
    ∃ e, Program.parse source = .error e ∧ ∀ text, e.fault ≠ .literal (.invalidString text) := by
  intro source
  obtain ⟨hliterals, hparse⟩ := tokenize_literals source
  -- what is evaluated here are the kinds of the tokens, and that the program fails
  have hkinds : ∀ k ∈ [Kind.string, .reference, .regex, .duration],
      ∃ t ∈ tokenize source, t.kind = k := by decide +kernel
  have hfails : ∃ e, Program.parse source = .error e := by
    have h : (match Program.parse source with
      | .ok _ => false
      | .error _ => true) = true := by decide +kernel
    cases hp : Program.parse source with
    | ok p => rw [hp] at h; cases h
    | error e => exact ⟨e, rfl⟩
  refine ⟨?_, ?_, ?_, ?_, ?_⟩
  · obtain ⟨t, ht, hk⟩ := hkinds .string (by decide)
    exact ⟨t, ht, hk, (hliterals t ht).1 hk⟩
  · obtain ⟨t, ht, hk⟩ := hkinds .reference (by decide)
    exact ⟨t, ht, hk, (hliterals t ht).2.1 hk⟩
  · obtain ⟨t, ht, hk⟩ := hkinds .regex (by decide)
    exact ⟨t, ht, hk, (hliterals t ht).2.2.1 hk⟩
  · obtain ⟨t, ht, hk⟩ := hkinds .duration (by decide)
    obtain ⟨magnitude, u, hu, htext, -, -, hread⟩ := (hliterals t ht).2.2.2 hk
    exact ⟨t, ht, hk, magnitude, u, hu, htext, fun v hv => ((hread v).1 hv).1⟩
  · obtain ⟨e, he⟩ := hfails
    exact ⟨e, he, hparse e he⟩

end Sample

end Tickscript
