import Tickscript.Proofs.Relexing

/-!
# Nothing of a source is lost

A source is a row of *segments*, one for each of its tokens: the blanks and comments in front of
the token, and the characters that the token takes up. `tokenize_lossless` says that the segments
of `tokenize source` put together are `source`, that every comment in front of a token is complete
and is found again in the token, and that only malformed input has a text which is not the one in
the source.

One step of the lexer takes one segment off the front (`Lexer.faithful_segment`); `Covers` is what
the steps add up to.
-/

namespace Tickscript

/-! ## Complete comments -/

namespace Trivia

/-- A piece is complete where `after` follows it: a line comment ends with its line, and a block
comment at the first closing mark. -/
def Complete (after : List Char) : Trivia → Prop
  | blank c => Text.isBlank c = true
  | line body => '\n' ∉ body ∧ ∀ c ∈ after.head?, c = '\n'
  | block body => ¬ ['*', '/'] <:+: body

/-- Every piece of a run is complete where the rest of the run, and then `after`, follow it. -/
def CompleteRun (after : List Char) : List Trivia → Prop
  | [] => True
  | t :: ts => t.Complete (textOf ts ++ after) ∧ CompleteRun after ts

/-- The body of a block comment holds no closing mark. -/
theorem not_infix_of_blockBody? {cs body rest : List Char} (h : blockBody? cs = some (body, rest)) :
    ¬ ['*', '/'] <:+: body := by
  fun_induction blockBody? cs generalizing body rest with
  | case1 => cases h
  | case2 => cases h
  | case3 c d cs hcd =>
    cases h
    simp
  | case4 c d cs hcd ih =>
    obtain ⟨⟨body', rest'⟩, hb, heq⟩ := Option.map_eq_some_iff.1 h
    cases heq
    rw [List.infix_cons_iff]
    rintro (hmark | hinner)
    · -- A mark at the very front would have ended the comment there.
      obtain ⟨hc, hslash⟩ := List.cons_prefix_cons.1 hmark
      obtain ⟨more, rfl⟩ := hslash
      have happend := eq_append_of_blockBody? hb
      exact hcd ⟨hc.symm, (List.cons.inj happend).1⟩
    · exact ih hb hinner

/-- A piece that is split off a source is complete there. -/
theorem complete_of_first? {cs rest : List Char} {t : Trivia} (h : first? cs = some (t, rest)) :
    t.Complete rest := by
  unfold first? at h
  split at h
  · cases h
  · split at h
    · next hblank =>
      cases h
      exact hblank
    · split at h
      · split at h
        · next tl =>
          cases h
          refine ⟨fun hmem => ?_, fun c hc => ?_⟩
          · simpa using List.mem_takeWhile_imp hmem
          · have hstop := List.head?_dropWhile_not (fun c => decide (c ≠ '\n')) tl
            rw [Option.mem_def.1 hc] at hstop
            simpa using hstop
        · obtain ⟨⟨body, rest'⟩, hb, heq⟩ := Option.map_eq_some_iff.1 h
          cases heq
          exact not_infix_of_blockBody? hb
        · cases h
      · cases h

/-- What is split off the front of a source is a run of complete pieces. -/
theorem completeRun_split (cs : List Char) : CompleteRun (split cs).2 (split cs).1 := by
  induction hn : cs.length using Nat.strongRecOn generalizing cs with
  | _ n ih =>
    cases hf : first? cs with
    | none =>
      rw [split_eq_nil hf]
      trivial
    | some piece =>
      obtain ⟨t, rest⟩ := piece
      rw [split_eq_cons hf]
      refine ⟨?_, ih rest.length (hn ▸ length_lt_of_first? hf) rest rfl⟩
      rw [split_text rest]
      exact complete_of_first? hf

/-- The lines in front of a token are those of the comments in the gap. -/
theorem getD_commentOf (g : List Trivia) : (commentOf g).getD [] = g.flatMap lines := by
  unfold commentOf
  split
  · next h => rw [h]; rfl
  · next h => rw [h]; rfl

/-- There is no comment exactly if there are no lines. -/
theorem commentOf_eq_none (g : List Trivia) : commentOf g = none ↔ g.flatMap lines = [] := by
  unfold commentOf
  split
  · next h => simp [h]
  · next h => simp [h]

/-- Without an end of the comment there is no closing mark. -/
theorem not_infix_of_blockBody?_eq_none {cs : List Char} (h : blockBody? cs = none) :
    ¬ ['*', '/'] <:+: cs := by
  fun_induction blockBody? cs with
  | case1 => simp
  | case2 c =>
    intro hmark
    have hlength := hmark.length_le
    simp at hlength
  | case3 => cases h
  | case4 c d cs hcd ih =>
    rw [List.infix_cons_iff]
    rintro (hfront | hinner)
    · obtain ⟨hc, hrest⟩ := List.cons_prefix_cons.1 hfront
      exact hcd ⟨hc.symm, (List.cons_prefix_cons.1 hrest).1.symm⟩
    · exact ih (Option.map_eq_none_iff.1 h) hinner

/-- Where nothing can be split off, a comment that opens is never closed. -/
theorem not_infix_of_first?_eq_none {cs : List Char} (h : first? ('/' :: '*' :: cs) = none) :
    ¬ ['*', '/'] <:+: cs := by
  have hbody : (blockBody? cs).map (fun x => (block x.1, x.2)) = none := h
  exact not_infix_of_blockBody?_eq_none (Option.map_eq_none_iff.1 hbody)

end Trivia

/-! ## Constructs that are never closed -/

namespace Lexer

/-- A construct opens at the front and is not closed by anything after its opening mark. -/
inductive Unclosed : String → List Char → Prop where
  | comment {cs : List Char} (h : ¬ ['*', '/'] <:+: cs) :
      Unclosed "block comment" ('/' :: '*' :: cs)
  | quoted {what : String} {quote : Char} {cs : List Char}
      (hwhat : (what, quote) ∈ [("regex", '/'), ("string", '\''), ("reference", '"')])
      (h : ∀ body rest, cs = body ++ quote :: rest → ¬ Inside quote body) :
      Unclosed what (quote :: cs)
  | triple {cs : List Char} (h : ¬ Quote.triple <:+: cs) : Unclosed "string" (Quote.triple ++ cs)

theorem Unclosed.ne_nil {what : String} {cs : List Char} (h : Unclosed what cs) : cs ≠ [] := by
  cases h <;> simp [Quote.triple]

/-- Without an end of the literal, every quote has a backslash before it. -/
theorem not_inside_of_untilQuote?_eq_none {quote : Char} {cs : List Char} (hquote : quote ≠ '\\')
    (h : untilQuote? quote cs = none) (body rest : List Char) (hcs : cs = body ++ quote :: rest) :
    ¬ Inside quote body := by
  intro hinside
  rw [hcs, hinside.untilQuote? hquote rest] at h
  cases h

/-- Without an end of the verbatim string, no three quotes are left in a row. -/
theorem not_infix_of_untilTriple?_eq_none {cs : List Char} (h : untilTriple? cs = none) :
    ¬ Quote.triple <:+: cs := by
  induction cs with
  | nil => simp [Quote.triple]
  | cons c cs ih =>
    rw [untilTriple?_cons] at h
    by_cases hfront : Quote.triple <+: c :: cs
    · rw [if_pos hfront] at h
      cases h
    · rw [if_neg hfront, Option.map_eq_none_iff] at h
      rw [List.infix_cons_iff, not_or]
      exact ⟨hfront, ih h⟩

end Lexer

/-! ## What a token takes up -/

/-- The characters that a token takes up in a source, where `after` follows them. The end of input
takes up none, and a proper token takes up its text. Malformed input is a character that starts no
token, or a construct that is opened and not closed, and then all that is left. -/
inductive Token.TakesUp (t : Token) (after : List Char) : List Char → Prop where
  | eof (hk : t.kind = .eof) (ht : t.text = "") : TakesUp t after []
  | verbatim {cs : List Char} (hk : t.kind ∉ [.error, .eof, .comment])
      (ht : t.text = String.ofList cs) (hne : cs ≠ []) : TakesUp t after cs
  | stray {c : Char} (hk : t.kind = .error)
      (ht : t.text = "unexpected character " ++ Text.quotedChar c) (hmark : c ∉ Lexer.marks)
      (hname : Lexer.isNameStart c = false) (hdigit : c.isDigit = false) : TakesUp t after [c]
  | unclosed {what : String} {cs : List Char} (hk : t.kind = .error)
      (ht : t.text = "unterminated " ++ what) (hopen : Lexer.Unclosed what cs)
      (hafter : after = []) : TakesUp t after cs

namespace Token.TakesUp

variable {t : Token} {after cs : List Char}

/-- No token takes up a comment. -/
theorem kind_ne_comment (h : t.TakesUp after cs) : t.kind ≠ .comment := by
  intro hcomment
  cases h <;> simp_all

/-- The end of input takes up nothing. -/
theorem eq_nil (h : t.TakesUp after cs) (hk : t.kind = .eof) : cs = [] := by
  cases h <;> simp_all

/-- Every other token takes up a character at least. -/
theorem ne_nil (h : t.TakesUp after cs) (hk : t.kind ≠ .eof) : cs ≠ [] := by
  cases h with
  | eof heof => exact absurd heof hk
  | verbatim _ _ hne => exact hne
  | stray => simp
  | unclosed _ _ hopen => exact hopen.ne_nil

end Token.TakesUp

namespace Lexer

theorem not_mem_marks_of_symbol? {c : Char} {next : Option Char} (h : symbol? c next = none)
    (hquote : c ≠ '\'') (hdouble : c ≠ '"') : c ∉ marks := by
  unfold symbol? at h
  repeat' split at h
  all_goals first
    | (cases h; done)
    | simp_all [marks]

/-- A lexeme stands for what it takes up, whatever token carries its kind and text. -/
def Stands (x : Lexeme) : Prop :=
  ∀ t : Token, t.kind = x.kind → t.text = x.text → t.TakesUp x.rest x.taken

theorem stands_verbatim {k : Kind} {taken rest : List Char} (hk : k ∉ [.error, .eof, .comment])
    (hne : taken ≠ []) : Stands (.verbatim k taken rest) := by
  intro t htk htt
  have hk' : t.kind = k := htk
  exact .verbatim (hk' ▸ hk) htt hne

/-- A construct that is open takes up all that is left. -/
theorem stands_unterminated {what : String} {cs : List Char} (h : Unclosed what cs) :
    Stands (.unterminated what cs) :=
  fun _ htk htt => .unclosed htk htt h rfl

/-- A quoted literal takes up its text, or is open to the end. -/
theorem stands_quotedLiteral {k : Kind} {what : String} {quote : Char} (cs : List Char)
    (hk : k ∉ [.error, .eof, .comment])
    (hwhat : (what, quote) ∈ [("regex", '/'), ("string", '\''), ("reference", '"')]) :
    Stands (quotedLiteral k what quote (quote :: cs)) := by
  have hquote : quote ≠ '\\' := by
    rintro rfl
    simp at hwhat
  unfold quotedLiteral
  split
  · exact stands_verbatim hk (by simp)
  · next h => exact stands_unterminated (.quoted hwhat (not_inside_of_untilQuote?_eq_none hquote h))

/-- A verbatim string takes up its text, or is open to the end. -/
theorem stands_tripleLiteral (cs : List Char) : Stands (tripleLiteral (Quote.triple ++ cs)) := by
  unfold tripleLiteral
  split
  · exact stands_verbatim (by simp) (by simp)
  · next h => exact stands_unterminated (.triple (not_infix_of_untilTriple?_eq_none h))

theorem stands_symbol {c : Char} {cs : List Char} {k : Kind} {width : Nat}
    (h : symbol? c cs.head? = some (k, width)) : Stands (.front k width (c :: cs)) := by
  refine stands_verbatim ?_ ?_
  · unfold symbol? at h
    repeat' split at h
    all_goals simp_all
    all_goals obtain ⟨rfl, -⟩ := h; simp
  · obtain ⟨n, rfl⟩ : ∃ n, width = n + 1 := ⟨width - 1, by have := width_pos_of_symbol? h; omega⟩
    simp

/-- A name or a keyword takes up its text. -/
theorem stands_word {c : Char} (cs : List Char) (hc : isNameStart c = true) :
    Stands (word (c :: cs)) := by
  refine stands_verbatim ?_ ?_
  · have hcases := wordKind_cases (String.ofList ((c :: cs).takeWhile isNamePart))
    generalize wordKind _ = k at hcases
    revert hcases
    cases k <;> decide
  · simp [isNamePart_of_isNameStart hc]

/-- A number or a duration takes up its text. -/
theorem stands_quantity {c : Char} (cs : List Char) (hc : c.isDigit = true) :
    Stands (quantity (c :: cs)) := by
  refine stands_verbatim ?_ ?_
  · split <;> simp
  · simp [isNumberPart_of_isDigit hc]

/-- Whatever is scanned behind blanks and comments stands for what it takes up. -/
theorem stands_scan (allowed : Bool) {cs : List Char} (hfirst : Trivia.first? cs = none) :
    Stands (scan allowed cs) := by
  cases cs with
  | nil => exact fun _ htk htt => .eof htk htt
  | cons c tl =>
    rw [scan]
    split
    · next hcomment =>
      obtain ⟨rfl, hstar⟩ := hcomment
      obtain ⟨tl, rfl⟩ := List.head?_eq_some_iff.1 hstar
      exact stands_unterminated (.comment (Trivia.not_infix_of_first?_eq_none hfirst))
    · split
      · next hregex =>
        rw [hregex.1]
        exact stands_quotedLiteral tl (by simp) (by simp)
      · split
        · next hquote =>
          rw [hquote]
          split
          · next htwo =>
            obtain ⟨cs, rfl⟩ : ['\'', '\''] <+: tl := List.prefix_iff_eq_take.2 htwo.symm
            exact stands_tripleLiteral cs
          · exact stands_quotedLiteral tl (by simp) (by simp)
        · next hquote =>
          split
          · next hdouble =>
            rw [hdouble]
            exact stands_quotedLiteral tl (by simp) (by simp)
          · next hdouble =>
            split
            · next hsymbol => exact stands_symbol hsymbol
            · next hsymbol =>
              split
              · next hname => exact stands_word tl hname
              · next hname =>
                split
                · next hdigit => exact stands_quantity tl hdigit
                · next hdigit =>
                  have hmark := not_mem_marks_of_symbol? hsymbol hquote hdouble
                  exact fun _ htk htt =>
                    .stray htk htt hmark (by simpa using hname) (by simpa using hdigit)

end Lexer

/-! ## Segments -/

/-- A token in its source: what stands between it and the token before, and the characters that
the token itself takes up. -/
structure Segment where
  gap : List Trivia
  token : Token
  taken : List Char
deriving Repr, DecidableEq

namespace Segment

/-- The segment as it stands in the source. -/
def source (s : Segment) : List Char := Trivia.textOf s.gap ++ s.taken

/-- The token of a segment says what stands there, where `after` follows: its comment consists of
the trimmed lines of the comments in front of it. -/
structure Faithful (s : Segment) (after : List Char) : Prop where
  complete : Trivia.CompleteRun (s.taken ++ after) s.gap
  lines : s.token.comment.getD [] = s.gap.flatMap Trivia.lines
  none_iff : s.token.comment = none ↔ s.gap.flatMap Trivia.lines = []
  takesUp : s.token.TakesUp after s.taken

theorem Faithful.source_length_pos {s : Segment} {after : List Char} (h : s.Faithful after)
    (hk : s.token.kind ≠ .eof) : 0 < s.source.length := by
  have hpos := List.length_pos_iff.2 (h.takesUp.ne_nil hk)
  rw [source, List.length_append]
  omega

end Segment

/-- The next segment of a source. -/
def Lexer.segment (l : Lexer) : Segment := ⟨l.piece.gap, l.next.1, l.piece.text⟩

/-- A segment comes off the front of a source with nothing lost. -/
theorem Lexer.segment_source (l : Lexer) : l.segment.source ++ l.next.2.rest = l.rest := by
  have hscan := scan_append (regexMayFollow l.last) (Trivia.split l.rest).2
  have hsplit := Trivia.split_text l.rest
  rw [← hscan, ← List.append_assoc] at hsplit
  exact hsplit

/-- One step of the lexer takes off a segment that says what stands there. -/
theorem Lexer.faithful_segment (l : Lexer) : l.segment.Faithful l.next.2.rest where
  complete := by
    have hscan := scan_append (regexMayFollow l.last) (Trivia.split l.rest).2
    show Trivia.CompleteRun ((scan _ _).taken ++ (scan _ _).rest) (Trivia.split l.rest).1
    rw [hscan]
    exact Trivia.completeRun_split l.rest
  lines := Trivia.getD_commentOf _
  none_iff := Trivia.commentOf_eq_none _
  takesUp := stands_scan _ (Trivia.first?_split l.rest) _ rfl rfl

/-- Only at its end is there nothing to be scanned in a source. -/
theorem Lexer.rest_next_of_eof {l : Lexer} (hk : l.next.1.kind = .eof) : l.next.2.rest = [] := by
  have htaken : (scan (regexMayFollow l.last) (Trivia.split l.rest).2).taken = [] :=
    l.faithful_segment.takesUp.eq_nil hk
  cases hleft : (Trivia.split l.rest).2 with
  | nil => simp [next, hleft, scan]
  | cons c tl =>
    rw [hleft] at htaken
    exact absurd htaken (isFront_scan _ c tl).2

/-- The segments of a source, from its front to the end of input. -/
inductive Covers : List Char → List Segment → Prop where
  | last {s : Segment} (hk : s.token.kind = .eof) (h : s.Faithful []) : Covers s.source [s]
  | cons {s : Segment} {rest : List Char} {ss : List Segment} (hk : s.token.kind ≠ .eof)
      (h : s.Faithful rest) (hrest : Covers rest ss) : Covers (s.source ++ rest) (s :: ss)

namespace Covers

variable {cs : List Char} {ss : List Segment}

/-- The segments put together are the source. -/
theorem flatMap_source (h : Covers cs ss) : ss.flatMap Segment.source = cs := by
  induction h with
  | last => simp
  | cons _ _ _ ih => rw [List.flatMap_cons, ih]

/-- Every segment but the last takes up a character. -/
theorem length_le (h : Covers cs ss) : ss.length ≤ cs.length + 1 := by
  induction h with
  | last => simp
  | cons hk h _ ih =>
    have hpos := h.source_length_pos hk
    rw [List.length_cons, List.length_append]
    omega

/-- The end of input comes last and only there. -/
theorem eof_last (h : Covers cs ss) : ∃ front last, ss = front ++ [last] ∧
    last.token.kind = .eof ∧ ∀ s ∈ front, s.token.kind ≠ .eof := by
  induction h with
  | last hk => exact ⟨[], _, rfl, hk, by simp⟩
  | @cons s rest ss hk _ _ ih =>
    obtain ⟨front, last, rfl, hlast, hfront⟩ := ih
    refine ⟨s :: front, last, rfl, hlast, fun x hx => ?_⟩
    rcases List.mem_cons.1 hx with rfl | hx
    · exact hk
    · exact hfront x hx

/-- Each segment says what stands in its place, where the later ones follow. -/
theorem faithful (h : Covers cs ss) {before later : List Segment} {s : Segment}
    (hss : ss = before ++ s :: later) : s.Faithful (later.flatMap Segment.source) := by
  induction h generalizing before with
  | last hk h =>
    cases before with
    | nil =>
      cases hss
      exact h
    | cons b before => simp at hss
  | cons hk h hrest ih =>
    cases before with
    | nil =>
      cases hss
      rw [hrest.flatMap_source]
      exact h
    | cons b before => exact ih (List.cons.inj hss).2

end Covers

/-- From any place on, a source is covered by the segments of its tokens. -/
theorem Lexer.covers (l : Lexer) :
    ∃ ss : List Segment, ss.map Segment.token = l.tokens ∧ Covers l.rest ss := by
  induction hn : l.rest.length using Nat.strongRecOn generalizing l with
  | _ n ih =>
    by_cases hk : l.next.1.kind = .eof
    · have hrest := rest_next_of_eof hk
      have hfaithful := l.faithful_segment
      have hsource := l.segment_source
      rw [hrest] at hfaithful hsource
      rw [List.append_nil] at hsource
      exact ⟨[l.segment], (tokens_eof hk).symm, hsource ▸ .last hk hfaithful⟩
    · obtain ⟨ss, htokens, hcovers⟩ := ih _ (hn ▸ l.next_rest_length_lt hk) l.next.2 rfl
      refine ⟨l.segment :: ss, ?_, ?_⟩
      · rw [List.map_cons, htokens, tokens_cons hk]
        rfl
      · rw [← l.segment_source]
        exact .cons hk l.faithful_segment hcovers

/-- A source is cut into its tokens with nothing lost: put together with what stands between them
they are the source, the end of input comes last and only there, and the comments between two
tokens are the comment of the second. -/
theorem tokenize_lossless (source : String) :
    ∃ segments : List Segment,
      segments.map Segment.token = tokenize source ∧
      segments.flatMap Segment.source = source.toList ∧
      (tokenize source).length ≤ source.toList.length + 1 ∧
      (∃ front last, tokenize source = front ++ [last] ∧ last.kind = .eof ∧
        ∀ t ∈ front, t.kind ≠ .eof) ∧
      (∀ t ∈ tokenize source, t.kind ≠ .comment) ∧
      ∀ before s later, segments = before ++ s :: later →
        s.Faithful (later.flatMap Segment.source) := by
  obtain ⟨ss, htokens, hcovers⟩ := (Lexer.start source).covers
  have htokens : ss.map Segment.token = tokenize source := htokens
  refine ⟨ss, htokens, hcovers.flatMap_source, ?_, ?_, ?_, fun _ _ _ => hcovers.faithful⟩
  · rw [← htokens, List.length_map]
    exact hcovers.length_le
  · obtain ⟨front, last, rfl, hlast, hfront⟩ := hcovers.eof_last
    refine ⟨front.map Segment.token, last.token, by rw [← htokens]; simp, hlast, ?_⟩
    intro t ht
    obtain ⟨s, hs, rfl⟩ := List.mem_map.1 ht
    exact hfront s hs
  · intro t ht
    rw [← htokens] at ht
    obtain ⟨s, hs, rfl⟩ := List.mem_map.1 ht
    obtain ⟨before, later, hss⟩ := List.append_of_mem hs
    exact (hcovers.faithful hss).takesUp.kind_ne_comment

end Tickscript
