import Tickscript.Proofs.Layout

/-!
# Scanning what was written

A written text is scanned piece by piece. `Lexer.Yields` says that some pieces come off the front of
a source, and with `Lexer.yields_pieces` they are the pieces that were written, as long as each of
them spells its token and no regex stands where a slash divides. The first piece that does not is
scanned as something else (`Lexer.piece_regex`, `Lexer.piece_infinity`).
-/

namespace Tickscript

/-- What is read off a token: its kind, its text and the comment before it. -/
def Token.word (t : Token) : Kind × String × Option Comment := (t.kind, t.text, t.comment)

/-- What is read off a piece. -/
def Piece.word (p : Piece) : Kind × String × Option Comment :=
  (p.kind, String.ofList p.text, Trivia.commentOf p.gap)

/-! ## Tokens for pieces -/

/-- From `c` the tokens for the pieces `ps` lead to `c'`. -/
inductive Cursor.Shows : Cursor → List Piece → Cursor → Prop where
  | nil (c : Cursor) : Shows c [] c
  | cons {c c' : Cursor} {p : Piece} {ps : List Piece} (hword : c.current.word = p.word)
      (hne : p.kind ≠ .eof) (h : Shows c.advance ps c') : Shows c (p :: ps) c'

namespace Cursor

/-- The first piece is the current token, and the others are behind it. -/
theorem Shows.cons_inv {c c' : Cursor} {p : Piece} {ps : List Piece} (h : Shows c (p :: ps) c') :
    c.current.kind = p.kind ∧ c.current.text = String.ofList p.text ∧
      c.current.comment = Trivia.commentOf p.gap ∧ p.kind ≠ .eof ∧ Shows c.advance ps c' := by
  cases h with
  | cons hword hne h =>
    simp only [Token.word, Piece.word, Prod.mk.injEq] at hword
    exact ⟨hword.1, hword.2.1, hword.2.2, hne, h⟩

/-- Pieces in two parts meet at a cursor between them. -/
theorem Shows.append_inv {c c' : Cursor} {ps qs : List Piece} (h : Shows c (ps ++ qs) c') :
    ∃ c₁, Shows c ps c₁ ∧ Shows c₁ qs c' := by
  induction ps generalizing c with
  | nil => exact ⟨c, .nil c, h⟩
  | cons p ps ih =>
    cases h with
    | cons hword hne h =>
      obtain ⟨c₁, h₁, h₂⟩ := ih h
      exact ⟨c₁, .cons hword hne h₁, h₂⟩

/-- One piece is one token. -/
theorem Shows.single_inv {c c' : Cursor} {p : Piece} (h : Shows c [p] c') :
    c.current.kind = p.kind ∧ c.current.text = String.ofList p.text ∧
      c.current.comment = Trivia.commentOf p.gap ∧ c' = c.advance := by
  obtain ⟨hk, ht, hc, -, h⟩ := h.cons_inv
  cases h
  exact ⟨hk, ht, hc, rfl⟩

theorem Shows.nil_inv {c c' : Cursor} (h : Shows c [] c') : c' = c := by
  cases h
  rfl

/-- Pieces that are shown are still ahead. -/
theorem Shows.length_le {c c' : Cursor} {ps : List Piece} (h : Shows c ps c') :
    ps.length ≤ c.left := by
  induction h with
  | nil => exact Nat.zero_le _
  | @cons c c' p ps hword hne _ ih =>
    have hk : c.current.kind ≠ .eof := by
      simp only [Token.word, Piece.word, Prod.mk.injEq] at hword
      rwa [hword.1]
    have := left_advance_lt hk
    simp only [List.length_cons]
    omega

end Cursor

namespace Lexer

/-! ## Pieces of a source -/

/-- The next piece of a source. -/
def piece (l : Lexer) : Piece :=
  let gap := Trivia.split l.rest
  let lexeme := scan (regexMayFollow l.last) gap.2
  ⟨gap.1, lexeme.kind, lexeme.taken⟩

/-- The pieces `ps`, none of which is the end, come off the front of a source. -/
inductive Yields : Lexer → List Piece → Lexer → Prop where
  | nil (l : Lexer) : Yields l [] l
  | cons {l l' : Lexer} {ps : List Piece} (hne : l.piece.kind ≠ .eof) (h : Yields l.next.2 ps l') :
      Yields l (l.piece :: ps) l'

/-- Pieces that come off one after another come off as one row. -/
theorem Yields.append {l l₁ l₂ : Lexer} {ps qs : List Piece} (h₁ : Yields l ps l₁)
    (h₂ : Yields l₁ qs l₂) : Yields l (ps ++ qs) l₂ := by
  induction h₁ with
  | nil => exact h₂
  | cons hne _ ih => exact .cons hne (ih h₂)

/-- Behind the end of a source nothing comes off it. -/
theorem Yields.isPrefix_of_eof {l l₁ l₂ : Lexer} {ps qs : List Piece} (h₁ : Yields l ps l₁)
    (heof : l₁.piece.kind = .eof) (h₂ : Yields l qs l₂) : qs <+: ps := by
  induction h₁ generalizing qs with
  | nil l =>
    cases h₂ with
    | nil => exact List.nil_prefix
    | cons hne _ => exact absurd heof hne
  | cons _ _ ih =>
    cases h₂ with
    | nil => exact List.nil_prefix
    | cons _ h₂ => exact List.cons_prefix_cons.2 ⟨rfl, ih heof h₂⟩

/-- What is left behind a row of pieces depends on the row alone. -/
theorem Yields.unique {l l₁ l₂ : Lexer} {ps : List Piece} (h₁ : Yields l ps l₁)
    (h₂ : Yields l ps l₂) : l₁ = l₂ := by
  induction h₁ with
  | nil l =>
    cases h₂
    rfl
  | cons _ _ ih =>
    cases h₂ with
    | cons _ h₂ => exact ih h₂

/-- The text of a token is what it takes up, unless it is malformed. -/
theorem scan_text (allowed : Bool) (cs : List Char) : (scan allowed cs).kind = .error ∨
    (scan allowed cs).text = String.ofList (scan allowed cs).taken := by
  have hquoted : ∀ {k what quote cs}, (quotedLiteral k what quote cs).kind = .error ∨
      (quotedLiteral k what quote cs).text =
        String.ofList (quotedLiteral k what quote cs).taken := by
    intro k what quote cs
    unfold quotedLiteral
    split
    · exact .inr rfl
    · exact .inl rfl
  have htriple : ∀ {cs}, (tripleLiteral cs).kind = .error ∨
      (tripleLiteral cs).text = String.ofList (tripleLiteral cs).taken := by
    intro cs
    unfold tripleLiteral
    split
    · exact .inr rfl
    · exact .inl rfl
  unfold scan
  repeat' split
  all_goals first
    | exact .inr rfl
    | exact .inl rfl
    | exact hquoted
    | exact htriple

/-- The token that the next piece becomes. -/
theorem next_word {l : Lexer} (h : l.piece.kind ≠ .error) : l.next.1.word = l.piece.word := by
  have htext := (scan_text (regexMayFollow l.last) (Trivia.split l.rest).2).resolve_left h
  simp only [next, piece, Token.word, Piece.word, htext]

/-- The tokens of a source are the next one and those behind it. -/
theorem tokens_cons {l : Lexer} (h : l.piece.kind ≠ .eof) :
    l.tokens = l.next.1 :: l.next.2.tokens := by
  rw [tokens]
  exact dif_neg h

theorem tokens_eof {l : Lexer} (h : l.piece.kind = .eof) : l.tokens = [l.next.1] := by
  rw [tokens]
  exact dif_pos h

/-- Pieces that come off a source are its next tokens. -/
theorem Yields.tokens {l l' : Lexer} {ps : List Piece} (h : Yields l ps l')
    (hps : ∀ p ∈ ps, p.kind ≠ .error) :
    ∃ ts, l.tokens = ts ++ l'.tokens ∧ ts.map Token.word = ps.map Piece.word := by
  induction h with
  | nil l => exact ⟨[], rfl, rfl⟩
  | cons hne _ ih =>
    obtain ⟨ts, hts, hwords⟩ := ih fun p hp => hps p (by simp [hp])
    refine ⟨_ :: ts, by rw [tokens_cons hne, hts]; rfl, ?_⟩
    rw [List.map_cons, List.map_cons, next_word (hps _ (by simp)), hwords]

/-! ## Written pieces -/

/-- The kind of the last of some pieces, or `last` without any. -/
def lastKind (last : Option Kind) (ps : List Piece) : Option Kind :=
  ps.foldl (fun _ p => some p.kind) last

/-- Every slash and every regex is found where it stands. -/
def Follows (last : Option Kind) : List Piece → Prop
  | [] => True
  | p :: ps => mayFollow last p.kind = true ∧ Follows (some p.kind) ps

/-- A text that spells a token is neither the end nor malformed. -/
theorem Spells.kind_ne {k : Kind} {cs : List Char} (h : Spells k cs) : k ≠ .eof ∧ k ≠ .error := by
  cases h with
  | @word c cs k hc hcs hk hnot =>
    have hcases := wordKind_cases (String.ofList (c :: cs))
    rw [hk] at hcases
    constructor <;> (rintro rfl; revert hcases; decide)
  | symbol h =>
    have htable : ∀ x ∈ symbols, x.1 ≠ .eof ∧ x.1 ≠ .error := by decide
    exact htable _ h
  | _ => decide

/-- A piece that spells its token is the next one of the source that starts with it. -/
theorem piece_eq {p : Piece} {after : List Char} {l : Lexer}
    (hrest : l.rest = p.source ++ after) (hgap : Trivia.Formed p.gap) (hp : Spells p.kind p.text)
    (hlast : mayFollow l.last p.kind = true) (hafter : KeepsApart p.kind after) :
    l.piece = p ∧ l.next.2.rest = after ∧ l.next.2.last = some p.kind := by
  have hsplit : Trivia.split l.rest = (p.gap, p.text ++ after) := by
    rw [hrest, Piece.source, List.append_assoc]
    exact Trivia.split_formed hgap (hp.first?_eq_none hafter)
  have hscan := scan_spells hp hlast hafter
  simp only [piece, next, hsplit, hscan]
  exact ⟨rfl, rfl, rfl⟩

/-- Written pieces come off the front of a source that starts with them. -/
theorem yields_pieces {ps : List Piece} {after : List Char} {l : Lexer}
    (hrest : l.rest = Piece.sourceOf ps ++ after)
    (hps : ∀ p ∈ ps, Trivia.Formed p.gap ∧ Spells p.kind p.text) (hspaced : Spaced ps after)
    (hfollows : Follows l.last ps) :
    ∃ l', Yields l ps l' ∧ l'.rest = after ∧ l'.last = lastKind l.last ps := by
  induction ps generalizing l with
  | nil => exact ⟨l, .nil l, hrest, rfl⟩
  | cons p ps ih =>
    obtain ⟨hgap, hp⟩ := hps p (by simp)
    have hrest' : l.rest = p.source ++ (Piece.sourceOf ps ++ after) := by
      rw [hrest, ← List.append_assoc]
      rfl
    obtain ⟨hpiece, hnext, hlast⟩ := piece_eq hrest' hgap hp hfollows.1 hspaced.1
    obtain ⟨l', hyields, hl', hlast'⟩ := ih hnext (fun q hq => hps q (by simp [hq])) hspaced.2
      (hlast ▸ hfollows.2)
    refine ⟨l', ?_, hl', ?_⟩
    · have hcons := Yields.cons (l := l) (by rw [hpiece]; exact hp.kind_ne.1) hyields
      rwa [hpiece] at hcons
    · rw [hlast', hlast]
      rfl

/-- Behind the last piece only a gap is left. -/
theorem split_gap {g : List Trivia} {l : Lexer} (hrest : l.rest = Trivia.textOf g)
    (hg : Trivia.Formed g) : Trivia.split l.rest = (g, []) ∧ l.piece.kind = .eof := by
  have hsplit := @Trivia.split_formed g [] hg rfl
  rw [List.append_nil, ← hrest] at hsplit
  exact ⟨hsplit, by simp [piece, hsplit, scan]⟩

/-- Behind a run of blanks and comments there is only the end of the input, which takes the
comment. -/
theorem tokens_gap {g : List Trivia} {l : Lexer} (hrest : l.rest = Trivia.textOf g)
    (hg : Trivia.Formed g) :
    l.tokens.map Token.word = [(.eof, "", Trivia.commentOf g)] := by
  obtain ⟨hsplit, hkind⟩ := split_gap hrest hg
  rw [tokens_eof hkind]
  simp [next, hsplit, scan, Token.word]

/-! ## Pieces that are scanned as something else -/

/-- A regex where a slash divides is scanned as the slash. -/
theorem piece_regex {p : Piece} {after : List Char} {l : Lexer} (hrest : l.rest = p.source ++ after)
    (hgap : Trivia.Formed p.gap) (hk : p.kind = .regex) (hp : Spells p.kind p.text)
    (hlast : regexMayFollow l.last = false) : l.piece = ⟨p.gap, .slash, ['/']⟩ := by
  have hsplit : Trivia.split l.rest = (p.gap, p.text ++ after) := by
    rw [hrest, Piece.source, List.append_assoc]
    refine Trivia.split_formed hgap (hp.first?_eq_none ?_)
    rw [hk]
    exact fun _ _ => rfl
  have hscan : (scan false (p.text ++ after)).kind = .slash ∧
      (scan false (p.text ++ after)).taken = ['/'] := by
    rw [hk] at hp
    obtain ⟨body, htext, h⟩ := hp.regex_inv
    obtain ⟨c, body, rfl⟩ := List.exists_cons_of_ne_nil h.nonempty
    have hc : c ≠ '*' := fun hc => h.noComment (by rw [hc]; rfl)
    simp [htext, scan, hc, symbol?, Lexeme.front, Lexeme.verbatim]
  simp only [piece, hsplit, hlast, hscan]

/-- What is written for infinity is scanned as a name, a point and a number. -/
theorem piece_infinity {p : Piece} {after : List Char} {l : Lexer}
    (hrest : l.rest = p.source ++ after) (hgap : Trivia.Formed p.gap)
    (htext : p.text = "inf.0".toList) (hafter : KeepsApart .number after) :
    l.piece = ⟨p.gap, .identifier, "inf".toList⟩ ∧ l.next.2.piece = ⟨[], .dot, ['.']⟩ ∧
      l.next.2.next.2.piece = ⟨[], .number, ['0']⟩ := by
  have hinf : Spells .identifier "inf".toList :=
    .word (by decide +kernel) (List.all_eq_true.1 (by decide +kernel)) rfl (by decide)
  have hdot : Spells .dot ['.'] := .symbol (by decide)
  have hzero : Spells .number ['0'] := .number rfl (by simp) (by decide)
  have h₁ := @piece_eq ⟨p.gap, .identifier, "inf".toList⟩ ('.' :: '0' :: after)
    l (by rw [hrest, Piece.source, htext]; simp [Piece.source]) hgap hinf rfl
    (fun c hc => by
      cases hc
      have : endsBefore .identifier '.' = true := by decide +kernel
      exact this)
  have h₂ := @piece_eq ⟨[], .dot, ['.']⟩ ('0' :: after) l.next.2
    (by rw [h₁.2.1]; rfl) .nil hdot rfl (fun _ _ => rfl)
  have h₃ := @piece_eq ⟨[], .number, ['0']⟩ after l.next.2.next.2
    (by rw [h₂.2.1]; rfl) .nil hzero rfl hafter
  exact ⟨h₁.1, h₂.1, h₃.1⟩

/-- Why a piece is scanned as something else. -/
inductive Misread (last : Option Kind) (p : Piece) : Prop where
  | regex (hk : p.kind = .regex) (hp : Spells p.kind p.text) (hlast : regexMayFollow last = false)
  | infinity (hk : p.kind = .number) (htext : p.text = "inf.0".toList)

/-- Behind the end of an operand a slash divides. -/
theorem regexMayFollow_of_endsOperand {p : Piece} {before : Bool}
    (h : p.endsOperand before = true) : regexMayFollow (some p.kind) = false := by
  unfold Piece.endsOperand at h
  split at h <;> simp_all [regexMayFollow]

/-- Written pieces are found where they stand, up to the first that is scanned as something else. -/
theorem follows_or_misread {ps : List Piece} {last : Option Kind} {before : Bool}
    (hps : ∀ p ∈ ps, Written p.kind p.text) (horderly : Orderly before ps)
    (hbefore : before = true → regexMayFollow last = false) :
    Follows last ps ∧ (∀ p ∈ ps, Spells p.kind p.text) ∨
      ∃ qs p rs, ps = qs ++ p :: rs ∧ Follows last qs ∧ (∀ q ∈ qs, Spells q.kind q.text) ∧
        Misread (lastKind last qs) p := by
  induction ps generalizing last before with
  | nil => exact .inl ⟨trivial, by simp⟩
  | cons p ps ih =>
    obtain ⟨hslash, -, horderly⟩ := horderly
    rcases hps p (by simp) with hp | ⟨hk, htext⟩
    · by_cases hlast : mayFollow last p.kind = true
      · rcases ih (fun q hq => hps q (by simp [hq])) horderly regexMayFollow_of_endsOperand with
          ⟨hfollows, hspells⟩ | ⟨qs, b, rs, rfl, hfollows, hspells, hbad⟩
        · exact .inl ⟨⟨hlast, hfollows⟩, by simpa [hp] using hspells⟩
        · exact .inr ⟨p :: qs, b, rs, rfl, ⟨hlast, hfollows⟩, by simpa [hp] using hspells, hbad⟩
      · refine .inr ⟨[], p, ps, rfl, trivial, by simp, .regex ?_ hp ?_⟩
        all_goals
          unfold mayFollow at hlast
          split at hlast
          · next hk => first | exact hk | simpa [lastKind] using hlast
          · next hk => simp [hbefore (hslash hk).1] at hlast
          · simp at hlast
    · exact .inr ⟨[], p, ps, rfl, trivial, by simp, .infinity hk htext⟩

end Lexer

end Tickscript
