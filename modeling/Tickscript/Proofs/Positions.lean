import Mathlib.Data.List.DropRight
import Tickscript.Proofs.Lossless

/-!
# Where tokens stand

Four counters go along with a lexer: the characters, the bytes, the line and the column. They are
raised one character at a time, through every loop that scans. `Position.behind` counts off a piece
of source at once what they should say behind it, and `Position.advance_start` is the whole reason
that they do: one more character changes the count as `Position.step` changes the counters.

A lexer that has read the characters `p` of a source stands behind them (`Lexer.HasRead`), and every
token it gives moves it on by one segment (`HasRead.next`). So the row of segments that belongs to
any number of calls tells the place of each token (`HasRead.of_segments`). In the end stands
`Lexer.take_exact`: each of the tokens, malformed input and the ends of input included, is exactly
where its position says.
-/

namespace Tickscript

/-! ## Counting -/

namespace Position

/-- The position behind the first characters `cs` of a source: their length in UTF-8, and from one
on, the newlines among them and the characters behind the last newline. -/
def behind (cs : List Char) : Position where
  offset := (String.ofList cs).utf8ByteSize
  line := 1 + cs.count '\n'
  column := 1 + (cs.rtakeWhile (· ≠ '\n')).length

theorem behind_concat (cs : List Char) (c : Char) : behind (cs ++ [c]) = (behind cs).step c := by
  have hoffset : (String.ofList (cs ++ [c])).utf8ByteSize =
      (String.ofList cs).utf8ByteSize + c.utf8Size := by simp
  by_cases hc : c = '\n'
  · subst hc
    simp only [behind, step, if_pos, hoffset]
    simp
    omega
  · simp only [behind, step, if_neg hc, hoffset]
    simp [hc]
    omega

/-- Step by step the counters come to what is counted at once. -/
theorem advance_start (cs : List Char) : start.advance cs = behind cs := by
  induction cs using List.reverseRecOn with
  | nil => rfl
  | append_singleton cs c ih =>
    rw [advance_append, ih, behind_concat]
    rfl

theorem behind_append (cs ds : List Char) : behind (cs ++ ds) = (behind cs).advance ds := by
  rw [← advance_start, advance_append, advance_start]

end Position

/-! ## Calls in a row -/

namespace Lexer

/-- The segments of the next `n` tokens. -/
def segments (l : Lexer) : Nat → List Segment
  | 0 => []
  | n + 1 => l.segment :: l.next.2.segments n

theorem map_token_segments (l : Lexer) (n : Nat) : (l.segments n).map Segment.token = l.take n := by
  induction n generalizing l with
  | zero => rfl
  | succ n ih =>
    show l.next.1 :: (l.next.2.segments n).map Segment.token = l.next.1 :: l.next.2.take n
    rw [ih]

/-- The lexer has read the characters `p` of a source, and knows where they end. -/
structure HasRead (source p : List Char) (l : Lexer) : Prop where
  append_rest : p ++ l.rest = source
  position : l.position = .behind p

variable {source p : List Char} {l : Lexer}

/-- The next token starts behind what stands in front of it. -/
theorem HasRead.position_next (h : l.HasRead source p) :
    l.next.1.position = .behind (p ++ Trivia.textOf l.segment.gap) := by
  show l.position.advance (Trivia.textOf (Trivia.split l.rest).1) = _
  rw [h.position, Position.behind_append]
  rfl

/-- One call moves a lexer on by one segment. -/
theorem HasRead.next (h : l.HasRead source p) :
    l.next.2.HasRead source (p ++ l.segment.source) where
  append_rest := by rw [List.append_assoc, l.segment_source, h.append_rest]
  position := by
    show l.next.1.position.advance l.segment.taken = _
    rw [h.position_next, ← Position.behind_append, List.append_assoc]
    rfl

/-- Of any number of calls, each finds the lexer behind the segments of the calls before. -/
theorem HasRead.of_segments (h : l.HasRead source p) {n : Nat} {before later : List Segment}
    {s : Segment} (hsegments : l.segments n = before ++ s :: later) :
    ∃ (l' : Lexer) (m : Nat), l'.HasRead source (p ++ before.flatMap Segment.source) ∧
      s = l'.segment ∧ later = l'.next.2.segments m := by
  induction before generalizing l n p with
  | nil =>
    cases n with
    | zero => cases hsegments
    | succ n =>
      obtain ⟨rfl, rfl⟩ := List.cons.inj hsegments
      exact ⟨l, n, by simpa using h, rfl, rfl⟩
  | cons b before ih =>
    cases n with
    | zero => cases hsegments
    | succ n =>
      obtain ⟨rfl, htail⟩ := List.cons.inj hsegments
      obtain ⟨l', m, hread, hs, hlater⟩ := ih h.next htail
      rw [List.append_assoc] at hread
      exact ⟨l', m, hread, hs, hlater⟩

/-! ## The end of a source -/

/-- The end of input stands at the end of the source. -/
theorem HasRead.of_eof (h : l.HasRead source p) (hk : l.next.1.kind = .eof) :
    p ++ Trivia.textOf l.segment.gap = source ∧ l.next.2.rest = [] := by
  have htaken : l.segment.taken = [] := l.faithful_segment.takesUp.eq_nil hk
  have hrest := rest_next_of_eof hk
  have hread := h.next.append_rest
  rw [hrest, Segment.source, htaken, List.append_nil, List.append_nil] at hread
  exact ⟨hread, hrest⟩

/-- Behind the end of a source the end of input comes again and again. -/
theorem eof_of_rest_nil (hrest : l.rest = []) (n : Nat) :
    ∀ s ∈ l.segments n, s.token.kind = .eof ∧ s.token.position = l.position := by
  induction n generalizing l with
  | zero => simp [segments]
  | succ n ih =>
    have hsplit : Trivia.split l.rest = ([], []) := by rw [hrest, Trivia.split_eq_nil rfl]
    have hnext : l.next.2.rest = [] ∧ l.next.2.position = l.position := by
      simp [Lexer.next, hsplit, scan, Trivia.textOf]
    intro s hs
    rcases List.mem_cons.1 hs with rfl | hs
    · show l.next.1.kind = .eof ∧ l.next.1.position = l.position
      simp [Lexer.next, hsplit, scan, Trivia.textOf]
    · rw [← hnext.2]
      exact ih hnext.1 s hs

end Lexer

/-! ## Slices -/

/-- What a proper token takes up is its text. -/
theorem Token.TakesUp.text_eq {t : Token} {after cs : List Char} (h : t.TakesUp after cs)
    (herror : t.kind ≠ .error) (heof : t.kind ≠ .eof) : t.text = String.ofList cs := by
  cases h with
  | eof hk => exact absurd hk heof
  | verbatim _ ht => exact ht
  | stray hk => exact absurd hk herror
  | unclosed hk => exact absurd hk herror

/-- The middle part of a source is the slice of its bytes that starts at the length of the first. -/
theorem Text.slice_bytes {source : String} {p cs rest : List Char}
    (h : p ++ cs ++ rest = source.toList) :
    source.toByteArray.extract (String.ofList p).utf8ByteSize
        ((String.ofList p).utf8ByteSize + (String.ofList cs).utf8ByteSize) =
      (String.ofList cs).toByteArray := by
  have hsource : source = String.ofList p ++ (String.ofList cs ++ String.ofList rest) := by
    rw [← String.ofList_append, ← String.ofList_append, ← List.append_assoc, h,
      String.ofList_toList]
  rw [hsource, String.toByteArray_append, String.toByteArray_append]
  generalize String.ofList p = a, String.ofList cs = b, String.ofList rest = c
  show (a.toByteArray ++ (b.toByteArray ++ c.toByteArray)).extract (a.toByteArray.size + 0)
    (a.toByteArray.size + b.toByteArray.size) = b.toByteArray
  rw [ByteArray.extract_append_size_add, ByteArray.extract_append_eq_left rfl]

/-! ## The result -/

/-- Whatever number of tokens is asked for, each of them is exactly where its position says. It
starts behind the characters `p` of the source, which are those of the tokens before it and of what
stands in between: the offset is their length in bytes, and line and column count their newlines and
the characters behind the last. A proper token is the slice of the source at its offset. The end of
input is at the end of the source, and then it comes again at every further call. -/
theorem Lexer.take_exact (source : String) (n : Nat) :
    ∃ segments : List Segment, segments.map Segment.token = (Lexer.start source).take n ∧
      ∀ before s later, segments = before ++ s :: later →
        ∃ p rest, p = before.flatMap Segment.source ++ Trivia.textOf s.gap ∧
          p ++ s.taken ++ rest = source.toList ∧ s.Faithful rest ∧
          s.token.position.offset = (String.ofList p).utf8ByteSize ∧
          s.token.position.line = 1 + p.count '\n' ∧
          s.token.position.column = 1 + (p.rtakeWhile (· ≠ '\n')).length ∧
          (s.token.kind ≠ .error → s.token.kind ≠ .eof →
            source.toByteArray.extract s.token.position.offset
                (s.token.position.offset + s.token.text.utf8ByteSize) =
              s.token.text.toByteArray) ∧
          (s.token.kind = .eof → p = source.toList ∧
            ∀ t ∈ later, t.token.kind = .eof ∧ t.token.position = s.token.position) := by
  refine ⟨(start source).segments n, map_token_segments _ n, ?_⟩
  intro before s later hsegments
  have hstart : (start source).HasRead source.toList [] := ⟨rfl, rfl⟩
  obtain ⟨l, m, hread, rfl, rfl⟩ := hstart.of_segments hsegments
  rw [List.nil_append] at hread
  have hposition : l.segment.token.position = _ := hread.position_next
  have hwhole : before.flatMap Segment.source ++ Trivia.textOf l.segment.gap ++ l.segment.taken ++
      l.next.2.rest = source.toList := by
    rw [← hread.next.append_rest, Segment.source, List.append_assoc (before.flatMap _)]
  refine ⟨_, l.next.2.rest, rfl, hwhole, l.faithful_segment, ?_, ?_, ?_, ?_, ?_⟩
  · rw [hposition]
    rfl
  · rw [hposition]
    rfl
  · rw [hposition]
    rfl
  · intro herror heof
    rw [hposition, l.faithful_segment.takesUp.text_eq herror heof]
    exact Text.slice_bytes hwhole
  · intro heof
    obtain ⟨hend, hrest⟩ := hread.of_eof heof
    refine ⟨hend, ?_⟩
    have hlast : l.next.2.position = l.segment.token.position := by
      show l.next.1.position.advance l.segment.taken = _
      rw [l.faithful_segment.takesUp.eq_nil heof]
      rfl
    rw [← hlast]
    exact eof_of_rest_nil hrest m

end Tickscript
