import Tickscript.Pattern.Limits
import Tickscript.Proofs.AlikeTokens
import Tickscript.Proofs.Lossless
import Tickscript.Proofs.ParsedTrees

/-!
# Other blanks and comments between the same tokens

The texts of the tokens of a source can be laid out anew, with other blanks and comments between
them (`LaidOut`). What comes of it has the same tokens, apart from positions and comments, and so it
is the same program, or fails with the same fault (`Program.parse_laidOut`).

A blank after the text of a token is enough for the token to be found again: no token goes on over
a blank unless it is one with quotes, and where those close does not depend on what follows. Whether
a slash divides or opens a regex depends on the kind of the token before, which is the same.
-/

namespace Tickscript

/-! ## Complete gaps are split off as they stand -/

namespace Trivia

theorem blockBody?_of_not_infix {body : List Char} (h : ¬ ['*', '/'] <:+: body)
    (after : List Char) : blockBody? (body ++ '*' :: '/' :: after) = some (body, after) := by
  induction body with
  | nil => simp [blockBody?]
  | cons c body ih =>
    rw [List.infix_cons_iff, not_or] at h
    obtain ⟨hfront, hinner⟩ := h
    have ih := ih hinner
    -- The closing mark does not start at `c`, whatever stands behind it.
    cases body with
    | nil =>
      simp only [List.nil_append, List.cons_append] at ih ⊢
      simp [blockBody?]
    | cons d body =>
      have hmark : ¬ (c = '*' ∧ d = '/') := by
        rintro ⟨rfl, rfl⟩
        exact hfront ⟨body, rfl⟩
      simp only [List.cons_append] at ih ⊢
      rw [blockBody?, if_neg hmark, ih]
      rfl

/-- A complete piece is the first one of the text that starts with it. -/
theorem first?_of_complete {t : Trivia} {after : List Char} (h : t.Complete after) :
    first? (t.text ++ after) = some (t, after) := by
  have hslash : Text.isBlank '/' = false := by decide
  cases t with
  | blank c =>
    have hc : Text.isBlank c = true := h
    simp [text, first?, hc]
  | line body =>
    obtain ⟨hbody, hafter⟩ := h
    obtain ⟨htake, hdrop⟩ := @Lexer.takeWhile_eq _ (· ≠ '\n') body after
      (fun x hx => decide_eq_true fun (h : x = '\n') => hbody (h ▸ hx))
      (fun c hc => by simp [hafter c hc])
    show first? ('/' :: '/' :: (body ++ after)) = _
    simp only [first?, hslash, Bool.false_eq_true, if_false, if_true, htake, hdrop]
  | block body =>
    have hbody := blockBody?_of_not_infix h after
    have htext : text (block body) ++ after = '/' :: '*' :: (body ++ '*' :: '/' :: after) := by
      simp [text]
    rw [htext]
    simp [first?, hslash, hbody]

/-- A complete run is split off the front of what starts with something else. -/
theorem split_of_completeRun {g : List Trivia} {cs : List Char} (h : CompleteRun cs g)
    (hcs : first? cs = none) : split (textOf g ++ cs) = (g, cs) := by
  induction g with
  | nil => exact split_eq_nil hcs
  | cons t g ih =>
    have hfirst := first?_of_complete h.1
    rw [← List.append_assoc] at hfirst
    show split (text t ++ textOf g ++ cs) = _
    rw [split_eq_cons hfirst, ih h.2]

/-- The run starts with a blank. -/
def StartsBlank : List Trivia → Prop
  | blank _ :: _ => True
  | _ => False

end Trivia

/-! ## The texts of tokens -/

namespace Lexer

/-- No blank stands in a number. -/
theorem isNumberPart_of_isBlank {c : Char} (h : Text.isBlank c = true) :
    isNumberPart c = false := by
  obtain ⟨r, hr, hlo, hhi⟩ := Text.Range.mem_of_anyContains h
  have htable : ∀ r ∈ Text.whiteSpace, ∀ k < r.last + 1 - r.first,
      isNumberPart (Char.ofNat (r.first + k)) = false := by
    decide
  have hc := htable r hr (c.toNat - r.first) (by omega)
  rwa [Nat.add_sub_cancel' hlo, Char.ofNat_toNat] at hc

/-- A character that no token goes on with: a blank, or the slash of a comment, if it does not stand
behind another slash. -/
def Separates (k : Kind) (c : Char) : Prop := Text.isBlank c = true ∨ c = '/' ∧ k ≠ .slash

/-- A separating character is in no name. -/
theorem Separates.isNamePart {k : Kind} {c : Char} (h : Separates k c) : isNamePart c = false := by
  rcases h with hblank | ⟨rfl, -⟩
  · exact isNamePart_of_isBlank hblank
  · decide +kernel

/-- A separating character ends the token before it. -/
theorem Separates.endsBefore {k : Kind} {c : Char} (h : Separates k c) : endsBefore k c = true := by
  have hname := h.isNamePart
  have hnumber : isNumberPart c = false := by
    rcases h with hblank | ⟨rfl, -⟩
    · exact isNumberPart_of_isBlank hblank
    · decide
  have hquote : c ≠ '\'' ∧ c ≠ '=' ∧ c ≠ '~' := by
    refine ⟨?_, ?_, ?_⟩ <;>
    · rintro rfl
      rcases h with hblank | ⟨hc, -⟩
      · revert hblank
        decide
      · cases hc
  have hslash : k = .slash → c ≠ '/' ∧ c ≠ '*' := by
    rintro rfl
    have hblank : Text.isBlank c = true := h.resolve_right fun h => h.2 rfl
    refine ⟨?_, ?_⟩ <;>
    · rintro rfl
      revert hblank
      decide
  cases k <;> simp_all [Lexer.endsBefore]

/-- A text is one that a source has for a token of some kind: one that spells it, or the word for
`not`. -/
inductive IsText : Kind → List Char → Prop where
  | spells {k : Kind} {cs : List Char} (h : Spells k cs) : IsText k cs
  | not : IsText .not ['N', 'O', 'T']

/-- Where it is kept apart, such a text is scanned as its token. -/
theorem IsText.scan {k : Kind} {cs after : List Char} {last : Option Kind} (h : IsText k cs)
    (hlast : mayFollow last k = true) (hafter : ∀ c ∈ after.head?, Separates k c) :
    Trivia.first? (cs ++ after) = none ∧
      scan (regexMayFollow last) (cs ++ after) = .verbatim k cs after := by
  have hapart : KeepsApart k after := fun c hc => (hafter c hc).endsBefore
  cases h with
  | spells h => exact ⟨h.first?_eq_none hapart, scan_spells h hlast hapart⟩
  | not =>
    have hstart : isNameStart 'N' = true := by decide +kernel
    have hparts : ∀ c ∈ ['O', 'T'], isNamePart c = true :=
      List.all_eq_true.1 (by decide +kernel)
    refine ⟨Trivia.first?_eq_none (isBlank_of_isNameStart hstart) fun h => ?_, ?_⟩
    · exact absurd h (by decide)
    exact scan_word _ hstart hparts fun c hc => (hafter c hc).isNamePart

/-! ### What scanning finds -/

/-- A quoted literal is of its kind, or malformed. -/
theorem quotedLiteral_kind (k : Kind) (what : String) (quote : Char) (cs : List Char) :
    (quotedLiteral k what quote cs).kind = k ∨ (quotedLiteral k what quote cs).kind = .error := by
  unfold quotedLiteral
  split
  · exact .inl rfl
  · exact .inr rfl

/-- A verbatim string is a string, or malformed. -/
theorem tripleLiteral_kind (cs : List Char) :
    (tripleLiteral cs).kind = .string ∨ (tripleLiteral cs).kind = .error := by
  unfold tripleLiteral
  split
  · exact .inl rfl
  · exact .inr rfl

/-- What starts with a digit is a duration or a number. -/
theorem quantity_kind (cs : List Char) :
    (quantity cs).kind = .duration ∨ (quantity cs).kind = .number := by
  unfold quantity
  simp only [Lexeme.verbatim]
  split
  · exact .inl rfl
  · exact .inr rfl

/-- Only one word is the operator `not`. -/
theorem of_wordKind_eq_not {w : String} (h : wordKind w = .not) : w = "NOT" := by
  unfold wordKind at h
  split at h
  all_goals first
    | rfl
    | cases h

/-- A regex is found only where one may follow, a slash only where none may, and `not` only as its
symbol or its word. -/
theorem scan_kind (allowed : Bool) (cs : List Char) :
    ((scan allowed cs).kind = .regex → allowed = true) ∧
    ((scan allowed cs).kind = .slash → allowed = false) ∧
    ((scan allowed cs).kind = .not → IsText .not (scan allowed cs).taken) := by
  cases cs with
  | nil => simp [scan]
  | cons c tl =>
    -- The cases are those of `scan`: an open comment, a regex, a string, a reference, a symbol, a
    -- word, a number or a duration, and anything else.
    rw [scan]
    split
    · simp [Lexeme.unterminated]
    next hblock =>
    split
    · next hregex =>
      rcases quotedLiteral_kind .regex "regex" '/' (c :: tl) with h | h <;> simp [h, hregex.2]
    next hregex =>
    split
    · split
      · rcases tripleLiteral_kind (c :: tl) with h | h <;> simp [h]
      · rcases quotedLiteral_kind .string "string" '\'' (c :: tl) with h | h <;> simp [h]
    split
    · rcases quotedLiteral_kind .reference "reference" '"' (c :: tl) with h | h <;> simp [h]
    split
    · next kind width hsymbol =>
      have hmem := mem_symbols_of_symbol? hsymbol
      have hne : ∀ x ∈ symbols, x.1 ≠ .regex ∧ (x.1 = .slash → x.2.head? = some '/') := by decide
      refine ⟨fun h => absurd h (hne _ hmem).1, fun h => ?_, fun h => ?_⟩
      · obtain ⟨n, rfl⟩ : ∃ n, width = n + 1 :=
          ⟨width - 1, by have := width_pos_of_symbol? hsymbol; omega⟩
        have hc : c = '/' := by simpa using (hne _ hmem).2 h
        cases allowed with
        | false => rfl
        | true => exact absurd ⟨hc, rfl⟩ hregex
      · exact .spells (.symbol (show (Kind.not, (c :: tl).take width) ∈ symbols from h ▸ hmem))
    split
    · have hcases := wordKind_cases (String.ofList ((c :: tl).takeWhile isNamePart))
      refine ⟨fun h => ?_, fun h => ?_, fun h => ?_⟩
      · rw [show wordKind _ = Kind.regex from h] at hcases
        exact absurd hcases (by decide)
      · rw [show wordKind _ = Kind.slash from h] at hcases
        exact absurd hcases (by decide)
      · have hword := of_wordKind_eq_not (show wordKind _ = Kind.not from h)
        have htaken : (c :: tl).takeWhile isNamePart = ['N', 'O', 'T'] := by
          rw [← String.toList_ofList (l := (c :: tl).takeWhile isNamePart), hword]
          rfl
        show IsText .not ((c :: tl).takeWhile isNamePart)
        rw [htaken]
        exact .not
    split
    · rcases quantity_kind (c :: tl) with h | h <;> simp [h]
    · simp

/-- A token of some kind is found only where it may follow. -/
theorem mayFollow_scan (last : Option Kind) (cs : List Char) :
    mayFollow last (scan (regexMayFollow last) cs).kind = true := by
  obtain ⟨hregex, hslash, -⟩ := scan_kind (regexMayFollow last) cs
  unfold mayFollow
  split
  · next h => exact hregex h
  · next h => simp [hslash h]
  · rfl

/-- What a token of a source takes up is such a text. -/
theorem isText_of_scan {allowed : Bool} {cs : List Char} (hcs : Trivia.first? cs = none)
    (hk : (scan allowed cs).kind ∉ [.error, .eof]) :
    IsText (scan allowed cs).kind (scan allowed cs).taken := by
  by_cases hnot : (scan allowed cs).kind = .not
  · rw [hnot]
    exact (scan_kind allowed cs).2.2 hnot
  · refine .spells (spells_of_scan hcs ?_).1
    simp only [List.mem_cons, List.not_mem_nil, or_false, not_or] at hk ⊢
    exact ⟨hk.1, hk.2, hnot⟩

end Lexer

/-! ## Tokens laid out anew -/

open Trivia (CompleteRun StartsBlank textOf)

/-- A text is made of the texts of tokens, in their order, with gaps of blanks and complete comments
before, between and behind them. A gap between two tokens starts with a blank, so that no two of
them run together. So does the gap at the end, if there is one, behind a slash: right behind it, the
slash of a comment would make a line comment of the two. Behind any other token the last gap may
start with a comment. The first token comes behind one of the kind `before`, if that is not
`none`. -/
inductive LaidOut : Option Kind → List Token → List Char → Prop where
  | last {before : Option Kind} {t : Token} {g : List Trivia} (ht : t.kind = .eof)
      (hg : CompleteRun [] g) (hstart : before = some .slash → StartsBlank g ∨ g = []) :
      LaidOut before [t] (textOf g)
  | cons {before : Option Kind} {t : Token} {ts : List Token} {g : List Trivia} {rest : List Char}
      (ht : t.kind ≠ .eof) (hg : CompleteRun (t.text.toList ++ rest) g)
      (hstart : before ≠ none → StartsBlank g) (h : LaidOut (some t.kind) ts rest) :
      LaidOut before (t :: ts) (textOf g ++ (t.text.toList ++ rest))

/-- Whatever follows a run that starts with a blank, there is a blank in front. -/
theorem Trivia.isBlank_of_startsBlank {g : List Trivia} {after : List Char} (h : StartsBlank g)
    (hg : CompleteRun after g) (cs : List Char) :
    ∀ c ∈ (textOf g ++ cs).head?, Text.isBlank c = true := by
  intro c hc
  match g, h, hg with
  | .blank d :: g, _, hg =>
    cases hc
    exact hg.1

/-- What is laid out behind a token is kept apart from it. -/
theorem LaidOut.separates {k : Kind} {ts : List Token} {cs : List Char}
    (h : LaidOut (some k) ts cs) : ∀ c ∈ cs.head?, Lexer.Separates k c := by
  intro c hc
  cases h with
  | @last _ _ g ht hg hstart =>
    match g, hg with
    | [], _ => cases hc
    | .blank d :: g, hg =>
      cases hc
      exact .inl hg.1
    | .line body :: g, _ | .block body :: g, _ =>
      cases hc
      refine .inr ⟨rfl, ?_⟩
      rintro rfl
      rcases hstart rfl with h | h
      · exact h
      · cases h
  | cons ht hg hstart _ => exact .inl (Trivia.isBlank_of_startsBlank (hstart nofun) hg _ c hc)

/-- The end of the input has no text. -/
theorem Token.TakesUp.text_of_eof {t : Token} {after cs : List Char} (h : t.TakesUp after cs)
    (hk : t.kind = .eof) : t.text = "" := by
  cases h with
  | eof _ htext => exact htext
  | verbatim hne => exact absurd (by simp [hk]) hne
  | stray herror | unclosed herror => rw [hk] at herror; cases herror

/-- The first token is the next one, and the others are behind it. -/
theorem Lexer.next_of_tokens_eq_cons {l : Lexer} {t : Token} {ts : List Token}
    (h : l.tokens = t :: ts) : l.next.1 = t ∧ (t.kind ≠ .eof → l.next.2.tokens = ts) := by
  by_cases heof : l.piece.kind = .eof
  · rw [tokens_eof heof] at h
    obtain ⟨rfl, -⟩ := List.cons.inj h
    exact ⟨rfl, fun hne => absurd heof hne⟩
  · rw [tokens_cons heof] at h
    obtain ⟨rfl, rfl⟩ := List.cons.inj h
    exact ⟨rfl, fun _ => rfl⟩

/-- The text of a token is found again wherever it may follow and is kept apart. -/
theorem Lexer.next_alike {l m : Lexer} {g : List Trivia} {rest : List Char}
    (hk : l.next.1.kind ∉ [.error, .eof]) (hlast : m.last = l.last)
    (hrest : m.rest = textOf g ++ (l.next.1.text.toList ++ rest))
    (hg : CompleteRun (l.next.1.text.toList ++ rest) g)
    (hafter : ∀ c ∈ rest.head?, Separates l.next.1.kind c) :
    l.next.1.Alike m.next.1 ∧ m.next.2.rest = rest ∧ m.next.2.last = some l.next.1.kind := by
  have hfirst := Trivia.first?_split l.rest
  have htaken : l.next.1.text.toList =
      (scan (regexMayFollow l.last) (Trivia.split l.rest).2).taken := by
    have hne : (scan (regexMayFollow l.last) (Trivia.split l.rest).2).kind ≠ .error := fun h =>
      hk (by simp [show l.next.1.kind = .error from h])
    show (scan _ _).text.toList = _
    rw [(scan_text _ _).resolve_left hne, String.toList_ofList]
  have htext : IsText l.next.1.kind l.next.1.text.toList := by
    rw [htaken]
    exact isText_of_scan hfirst hk
  have hmay : mayFollow m.last l.next.1.kind = true := by
    rw [hlast]
    exact mayFollow_scan l.last _
  obtain ⟨hnone, hscan⟩ := htext.scan hmay hafter
  have hsplit := Trivia.split_of_completeRun hg hnone
  rw [← hrest] at hsplit
  generalize l.next.1 = t at *
  unfold next
  simp only [hsplit, hscan]
  exact ⟨⟨rfl, by simp [Lexeme.verbatim]⟩, rfl, rfl⟩

/-- What is laid out has the same tokens, apart from positions and comments. -/
theorem LaidOut.alike_tokens {before : Option Kind} {ts : List Token} {cs : List Char}
    (h : LaidOut before ts cs) {l m : Lexer} (hts : l.tokens = ts) (hl : l.last = before)
    (hcs : m.rest = cs) (hm : m.last = before) (herror : ∀ t ∈ ts, t.kind ≠ .error) :
    List.Forall₂ Token.Alike ts m.tokens := by
  induction h generalizing l m with
  | @last before t g ht hg hstart =>
    obtain ⟨rfl, -⟩ := Lexer.next_of_tokens_eq_cons hts
    have hsplit := Trivia.split_of_completeRun hg rfl
    rw [List.append_nil, ← hcs] at hsplit
    have heof : m.piece.kind = .eof := by simp [Lexer.piece, hsplit, Lexer.scan]
    rw [Lexer.tokens_eof heof]
    refine .cons ⟨?_, ?_⟩ .nil
    · rw [ht]
      exact heof.symm
    · have htext : m.next.1.text = "" := by simp [Lexer.next, hsplit, Lexer.scan]
      rw [htext]
      exact l.faithful_segment.takesUp.text_of_eof ht
  | @cons before t ts g rest ht hg hstart h ih =>
    obtain ⟨rfl, htail⟩ := Lexer.next_of_tokens_eq_cons hts
    have hk : l.next.1.kind ∉ [.error, .eof] := by
      simp [herror l.next.1 (by simp), ht]
    obtain ⟨halike, hrest, hlast⟩ := Lexer.next_alike hk (hm.trans hl.symm) hcs hg h.separates
    have hne : m.piece.kind ≠ .eof := by
      have : m.next.1.kind ≠ .eof := halike.kind ▸ ht
      exact this
    rw [Lexer.tokens_cons hne]
    exact .cons halike (ih (htail ht) rfl hrest hlast fun u hu => herror u (by simp [hu]))

/-- Tokens that are alike have the same kinds and texts. -/
theorem Token.map_eq_of_alike {ts us : List Token} (h : List.Forall₂ Token.Alike ts us) :
    us.map (fun t => (t.kind, t.text)) = ts.map (fun t => (t.kind, t.text)) := by
  induction h with
  | nil => rfl
  | cons htu _ ih => rw [List.map_cons, List.map_cons, htu.kind, htu.text, ih]

/-- A source without malformed tokens can be laid out anew: its tokens are found again, with their
kinds and texts, and they are the same program or fail with the same fault. -/
theorem Program.parse_laidOut [Regex.Engine] {source source' : String}
    (herror : ∀ t ∈ tokenize source, t.kind ≠ .error)
    (h : LaidOut none (tokenize source) source'.toList) :
    (tokenize source').map (fun t => (t.kind, t.text)) =
        (tokenize source).map (fun t => (t.kind, t.text)) ∧
      SameOutcome (parse source) (parse source') := by
  have halike : List.Forall₂ Token.Alike (tokenize source) (tokenize source') :=
    h.alike_tokens (l := .start source) (m := .start source') rfl rfl rfl rfl herror
  exact ⟨Token.map_eq_of_alike halike, sameOutcome_ofTokens halike⟩

section Sample

attribute [local instance] Pattern.engine

/-- Comments and blanks come in between the tokens of a declaration. -/
theorem Program.parse_laidOut_declaration :
    SameOutcome (parse "var x=1") (parse "// c\nvar x /* d */ =\n1 ") := by
  have htokens : tokenize "var x=1" =
      [⟨.var, "var", ⟨0, 1, 1⟩, none⟩, ⟨.identifier, "x", ⟨4, 1, 5⟩, none⟩,
        ⟨.assign, "=", ⟨5, 1, 6⟩, none⟩, ⟨.number, "1", ⟨6, 1, 7⟩, none⟩,
        ⟨.eof, "", ⟨7, 1, 8⟩, none⟩] := by
    decide +kernel
  refine (parse_laidOut (by rw [htokens]; decide) ?_).2
  rw [htokens]
  refine .cons (g := [.line [' ', 'c'], .blank '\n']) nofun ⟨?_, rfl, trivial⟩ nofun ?_
  · exact ⟨by decide, fun c hc => (Option.some.inj hc).symm⟩
  refine .cons (g := [.blank ' ']) nofun ⟨rfl, trivial⟩ (fun _ => trivial) ?_
  refine .cons (g := [.blank ' ', .block [' ', 'd', ' '], .blank ' ']) nofun ⟨rfl, ?_, rfl, trivial⟩
    (fun _ => trivial) ?_
  · show ¬ ['*', '/'] <:+: [' ', 'd', ' ']
    decide
  refine .cons (g := [.blank '\n']) nofun ⟨rfl, trivial⟩ (fun _ => trivial) ?_
  exact .last (g := [.blank ' ']) rfl ⟨rfl, trivial⟩ (fun _ => .inl trivial)

end Sample

end Tickscript
