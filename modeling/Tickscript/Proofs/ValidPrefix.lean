import Tickscript.Pattern.Limits
import Tickscript.Proofs.MovedRuns

/-!
# The tokens before an error begin a program

A reader that fails at a token has done nothing wrong before it. `Faults.completes` puts the tokens
that are missing in place of the bad one and completes what the innermost reader has begun, and
`Inside.completes` closes everything around it, one level after the other. So the tokens before the
error begin a program (`Program.ofTokens_valid_prefix`), and those up to and including the bad token
begin none, because the failure can be moved to any other continuation.

The one thing that no token can complete is a `lambda` without its colon at the last level of
nesting: its body would be one level deeper.
-/

namespace Tickscript

open Cursor (Took)

/-- Some token of a kind. -/
def Kind.sample (k : Kind) : Token where
  kind := k
  text :=
    match k with
    | boolean => "TRUE"
    | identifier => "x"
    | reference => "\"\""
    | assign => "="
    | dot => "."
    | colon => ":"
    | lParen => "("
    | rParen => ")"
    | rBracket => "]"
    | _ => ""
  position := .start

theorem Kind.nameIn_sample : DbrpLine.nameIn Kind.reference.sample = .ok "" := by
  decide +kernel

/-- The kinds of the tokens before which an attempt can end. -/
def Attempt.EndsBefore (k : Kind) : Attempt → Prop
  | statements | dbrps | program => k = .eof
  | _ => k.Breaks

namespace Cursor

/-- In a list with an end of input, what was taken and what is ahead are the whole list. -/
theorem Took.eq_append {c c' : Cursor} {ts : List Token} (h : Took c ts c')
    (heof : ∃ t ∈ c.current :: c.rest, t.kind = .eof) :
    c.current :: c.rest = ts ++ c'.current :: c'.rest := by
  induction h with
  | nil => rfl
  | @cons c c' ts hne _ ih =>
    obtain ⟨t, us⟩ := c
    obtain ⟨u, hu, hk⟩ := heof
    have hmem : u ∈ us := by
      rcases List.mem_cons.1 hu with rfl | hu
      · exact absurd hk hne
      · exact hu
    cases us with
    | nil => simp at hmem
    | cons v us => exact congrArg (t :: ·) (ih ⟨u, hmem, hk⟩)

/-- Whatever was taken is not the end. -/
theorem Took.ne_eof {c c' : Cursor} {ts : List Token} (h : Took c ts c') :
    ∀ t ∈ ts, t.kind ≠ .eof := by
  induction h with
  | nil => simp
  | cons hne _ ih =>
    intro t ht
    rcases List.mem_cons.1 ht with rfl | ht
    · exact hne
    · exact ih t ht

/-- The tokens before the end can be taken. -/
theorem took_ofList_append {ts us : List Token} (hne : us ≠ []) (h : ∀ t ∈ ts, t.kind ≠ .eof) :
    Took (ofList (ts ++ us)) ts (ofList us) := by
  obtain ⟨u, us, rfl⟩ := List.exists_cons_of_ne_nil hne
  exact took_ofList u us h

end Cursor

/-- An error about a missing token depends on the current token alone. -/
theorem Cursor.unexpected_congr {c d : Cursor} (h : d.current = c.current) (expected : String) :
    d.unexpected expected = c.unexpected expected := by
  unfold unexpected
  rw [h]

section Completions

variable [Regex.Engine]

/-- The run for an attempt goes through. Calls are only asked for where there are some. -/
inductive Completes : Attempt → Cursor → Cursor → Prop where
  | operand {c c' : Cursor} {b : Nat} {e : Expr} (h : Derives (.operand b e) c c') :
      Completes (.operand b) c c'
  | climb {c c' : Cursor} {b min : Nat} {l e : Expr} (h : Derives (.climb b min l e) c c') :
      Completes (.climb b min l) c c'
  | expression {c c' : Cursor} {b : Nat} {e : Expr} (h : Derives (.expression b e) c c') :
      Completes (.expression b) c c'
  | arguments {c c' : Cursor} {b : Nat} {close : Kind} {es : List Expr}
      (h : Derives (.arguments b close es) c c') : Completes (.arguments b close) c c'
  | elements {c c' : Cursor} {b : Nat} {close : Kind} {es : List Expr}
      (h : Derives (.elements b close es) c c') : Completes (.elements b close) c c'
  | calls {c c' : Cursor} {b : Nat} {call : Call} {cs : List Call}
      (h : Derives (.calls b (call :: cs)) c c') : Completes (.calls b) c c'
  | statement {c c' : Cursor} {s : Statement} (h : DerivesStatement s c c') :
      Completes .statement c c'
  | statements {c c' : Cursor} {ss : List Statement} (h : DerivesStatements ss c c') :
      Completes .statements c c'
  | dbrps {c c' : Cursor} {ds : List DbrpLine} (h : DerivesDbrps ds c c') : Completes .dbrps c c'
  | program {c c₁ c' : Cursor} {ds : List DbrpLine} {ss : List Statement}
      (hds : DerivesDbrps ds c c₁) (hss : DerivesStatements ss c₁ c') : Completes .program c c'

/-! ## What is missing on the innermost level -/

/-- Where an expression breaks, a climb stops. -/
theorem Derives.stop_of_breaks {c : Cursor} (h : c.current.kind.Breaks) (b min : Nat) (l : Expr) :
    Derives (.climb b min l l) c c := by
  refine .stop fun op hop => ?_
  rw [h.1] at hop
  cases hop

/-- A literal alone is an expression. -/
theorem Derives.of_boolean {c : Cursor} {b : Nat} (hb : 0 < b) (hk : c.current.kind = .boolean)
    (hend : c.advance.current.kind.Breaks) : ∃ e, Derives (.expression b e) c c.advance := by
  obtain ⟨b, rfl⟩ : ∃ n, b = n + 1 := ⟨b - 1, by omega⟩
  exact ⟨_, .expression (.boolean hk) (.stop_of_breaks hend _ _ _)⟩

/-- A call without arguments that nothing follows. -/
theorem Completes.of_call {c : Cursor} {b : Nat} {kind : CallKind}
    (hm : CallKind.ofKind? c.current.kind = some kind) (hn : c.advance.current.kind = .identifier)
    (hp : c.advance.advance.current.kind = .lParen)
    (hr : c.advance.advance.advance.current.kind = .rParen)
    (hend : c.advance.advance.advance.advance.current.kind.Breaks) :
    Completes (.calls b) c c.advance.advance.advance.advance :=
  .calls (.call hm hn hp (.noArguments (.inl rfl) hr) (.noCalls hend.2.1))

/-- A declaration with a literal for its value. -/
theorem Completes.of_value {c : Cursor} (hk : c.current.kind = .var)
    (hn : c.advance.current.kind = .identifier)
    (ha : c.advance.advance.current.kind = .assign)
    (hb : c.advance.advance.advance.current.kind = .boolean)
    (hend : c.advance.advance.advance.advance.current.kind.Breaks) :
    Completes .statement c c.advance.advance.advance.advance := by
  obtain ⟨e, he⟩ := Derives.of_boolean (b := maxNesting) (by decide) hb hend
  exact .statement (.value hk hn ha he)

/-- A last `dbrp` line. -/
theorem Completes.of_dbrp {c : Cursor} {db rp : String} (hk : c.current.kind = .dbrp)
    (hdb : c.advance.current.kind = .reference ∨ c.advance.current.kind = .string)
    (hdbv : DbrpLine.nameIn c.advance.current = .ok db)
    (hdot : c.advance.advance.current.kind = .dot)
    (hrp : c.advance.advance.advance.current.kind = .reference ∨
      c.advance.advance.advance.current.kind = .string)
    (hrpv : DbrpLine.nameIn c.advance.advance.advance.current = .ok rp)
    (hend : c.advance.advance.advance.advance.current.kind = .eof) :
    Completes .dbrps c c.advance.advance.advance.advance :=
  .dbrps (.cons hk hdb hdbv hdot hrp hrpv (.nil (by simp [hend])))

/-- Instead of the token at which a reader fails, the missing ones complete what it has begun. -/
theorem Faults.completes {a : Attempt} {expected : String} {c c' : Cursor} {missing : List Kind}
    (h : Faults a expected c c' missing) (hdepth : a.depth < maxNesting) :
    Movable (fun k => missing.head? = some k) (fun d d' => c.Fits (· = .boolean) d ∧
      ∀ d'', Took d' (missing.map Kind.sample) d'' → a.EndsBefore d''.current.kind →
        Completes a d d'') c c' := by
  cases h with
  | noOperand =>
    refine (Movable.refl _ _).mono fun d d' ⟨hd, hs⟩ => ⟨hs.mono ?_, fun d'' htook _ => ?_⟩
    · intro k hk
      exact (Option.some.inj hk).symm
    · subst hd
      obtain ⟨hb, -, htook⟩ := htook.cons_inv
      cases htook
      exact .operand (.boolean (by rw [hb]; rfl))
  | @noColon _ b hk =>
    refine ((Movable.refl _ _).token hk (by decide)).mono fun d d' ⟨hcur, hd, _⟩ =>
      ⟨.inl hcur, fun d'' htook hend => ?_⟩
    subst hd
    obtain ⟨hc, -, htook⟩ := htook.cons_inv
    obtain ⟨hb, -, htook⟩ := htook.cons_inv
    cases htook
    -- The body of the lambda is a level deeper.
    have hpos : 0 < b := by
      simp only [Attempt.depth] at hdepth
      omega
    obtain ⟨e, he⟩ := Derives.of_boolean hpos (by rw [hb]; rfl) hend
    exact .operand (.lambda (by rw [hcur, hk]) (by rw [hc]; rfl) he)
  | unclosed hk he =>
    refine ((he.movable.weaken ?_).token hk (by decide)).mono fun d d' ⟨hcur, h⟩ =>
      ⟨.inl hcur, fun d'' htook _ => ?_⟩
    · intro k hk
      cases hk
      decide
    · obtain ⟨hc, -, htook⟩ := htook.cons_inv
      cases htook
      exact .operand (.paren (by rw [hcur, hk]) h (by rw [hc]; rfl))
  | noClose hclose he =>
    refine ((he.movable.first he.left_le).weaken ?_).mono fun d d' ⟨hcur, h⟩ =>
      ⟨.inl hcur, fun d'' htook _ => ?_⟩
    · intro k hk
      cases hk
      rcases hclose with rfl | rfl <;> decide
    · obtain ⟨hc, -, htook⟩ := htook.cons_inv
      cases htook
      exact .elements (.last hclose h (by rw [hc]; rfl))
  | noCallee hm =>
    refine ((Movable.refl _ _).token rfl (CallKind.taken hm)).mono fun d d' ⟨hcur, hd, _⟩ =>
      ⟨.inl hcur, fun d'' htook hend => ?_⟩
    subst hd
    obtain ⟨hn, -, htook⟩ := htook.cons_inv
    obtain ⟨hp, -, htook⟩ := htook.cons_inv
    obtain ⟨hr, -, htook⟩ := htook.cons_inv
    cases htook
    rw [← hcur] at hm
    exact .of_call hm (by rw [hn]; rfl) (by rw [hp]; rfl) (by rw [hr]; rfl) hend
  | noParen hm hn =>
    refine (((Movable.refl _ _).token hn (by decide)).token rfl (CallKind.taken hm)).mono
      fun d d' ⟨hcur, hcur₁, hd, _⟩ => ⟨.inl hcur, fun d'' htook hend => ?_⟩
    subst hd
    obtain ⟨hp, -, htook⟩ := htook.cons_inv
    obtain ⟨hr, -, htook⟩ := htook.cons_inv
    cases htook
    rw [← hcur] at hm
    exact .of_call hm (by rw [hcur₁, hn]) (by rw [hp]; rfl) (by rw [hr]; rfl) hend
  | noName hk =>
    refine ((Movable.refl _ _).token hk (by decide)).mono fun d d' ⟨hcur, hd, _⟩ =>
      ⟨.inl hcur, fun d'' htook hend => ?_⟩
    subst hd
    obtain ⟨hn, -, htook⟩ := htook.cons_inv
    obtain ⟨ha, -, htook⟩ := htook.cons_inv
    obtain ⟨hb, -, htook⟩ := htook.cons_inv
    cases htook
    exact .of_value (by rw [hcur, hk]) (by rw [hn]; rfl) (by rw [ha]; rfl) (by rw [hb]; rfl) hend
  | noBinding hk hn =>
    refine (((Movable.refl _ _).token hn (by decide)).token hk (by decide)).mono
      fun d d' ⟨hcur, hcur₁, hd, _⟩ => ⟨.inl hcur, fun d'' htook hend => ?_⟩
    subst hd
    obtain ⟨ha, -, htook⟩ := htook.cons_inv
    obtain ⟨hb, -, htook⟩ := htook.cons_inv
    cases htook
    exact .of_value (by rw [hcur, hk]) (by rw [hcur₁, hn]) (by rw [ha]; rfl) (by rw [hb]; rfl)
      hend
  | noDatabase hk =>
    refine ((Movable.refl _ _).token hk (by decide)).mono fun d d' ⟨hcur, hd, _⟩ =>
      ⟨.inl hcur, fun d'' htook hend => ?_⟩
    subst hd
    obtain ⟨hdb, -, htook⟩ := htook.cons_inv
    obtain ⟨hdot, -, htook⟩ := htook.cons_inv
    obtain ⟨hrp, -, htook⟩ := htook.cons_inv
    cases htook
    exact .of_dbrp (by rw [hcur, hk]) (.inl (by rw [hdb]; rfl)) (by rw [hdb, Kind.nameIn_sample])
      (by rw [hdot]; rfl) (.inl (by rw [hrp]; rfl)) (by rw [hrp, Kind.nameIn_sample]) hend
  | noDot hk hdb hdbv =>
    refine (((Movable.refl _ _).token rfl (Kind.taken_of_quoted hdb)).token hk (by decide)).mono
      fun d d' ⟨hcur, hcur₁, hd, _⟩ => ⟨.inl hcur, fun d'' htook hend => ?_⟩
    subst hd
    obtain ⟨hdot, -, htook⟩ := htook.cons_inv
    obtain ⟨hrp, -, htook⟩ := htook.cons_inv
    cases htook
    rw [← hcur₁] at hdb hdbv
    exact .of_dbrp (by rw [hcur, hk]) hdb hdbv (by rw [hdot]; rfl) (.inl (by rw [hrp]; rfl))
      (by rw [hrp, Kind.nameIn_sample]) hend
  | noPolicy hk hdb hdbv hdot =>
    refine ((((Movable.refl _ _).token hdot (by decide)).token rfl
      (Kind.taken_of_quoted hdb)).token hk (by decide)).mono
      fun d d' ⟨hcur, hcur₁, hcur₂, hd, _⟩ => ⟨.inl hcur, fun d'' htook hend => ?_⟩
    subst hd
    obtain ⟨hrp, -, htook⟩ := htook.cons_inv
    cases htook
    rw [← hcur₁] at hdb hdbv
    exact .of_dbrp (by rw [hcur, hk]) hdb hdbv (by rw [hcur₂, hdot]) (.inl (by rw [hrp]; rfl))
      (by rw [hrp, Kind.nameIn_sample]) hend

/-- Something is missing wherever there is a fault. -/
theorem Faults.missing_ne_nil {a : Attempt} {expected : String} {c c' : Cursor}
    {missing : List Kind} (h : Faults a expected c c' missing) : missing ≠ [] := by
  cases h <;> simp

/-- What is missing is not the end of the input. -/
theorem Faults.missing_ne_eof {a : Attempt} {expected : String} {c c' : Cursor}
    {missing : List Kind} (h : Faults a expected c c' missing) : ∀ k ∈ missing, k ≠ .eof := by
  cases h with
  | noClose hclose => rcases hclose with rfl | rfl <;> simp
  | _ => simp

/-! ## What is open around it -/

/-- With what was entered complete and closed, the run it was entered from is complete. -/
theorem Enters.completes {a a₁ : Attempt} {c c₁ c' c'' : Cursor} {closing : List Kind}
    (h : Enters a c a₁ c₁ closing) (htook : Took c' (closing.map Kind.sample) c'')
    (hend : a.EndsBefore c''.current.kind) :
    a₁.EndsBefore c'.current.kind ∧ (Completes a₁ c₁ c' → Completes a c c'') := by
  cases h with
  | unary hop =>
    cases htook
    exact ⟨hend, fun | .operand h => .operand (.unary hop h)⟩
  | list hk =>
    cases htook
    exact ⟨hend, fun | .arguments h => .operand (.list hk h)⟩
  | lambda hk hc =>
    cases htook
    exact ⟨hend, fun | .expression h => .operand (.lambda hk hc h)⟩
  | paren hk =>
    obtain ⟨hc, -, htook⟩ := htook.cons_inv
    cases htook
    have hkind : c'.current.kind = .rParen := by rw [hc]; rfl
    refine ⟨?_, fun | .expression h => .operand (.paren hk h hkind)⟩
    rw [hkind]
    exact (by decide : Kind.rParen.Breaks)
  | function hk hp =>
    cases htook
    exact ⟨hend, fun | .arguments h => .operand (.function hk hp h)⟩
  | chain hk =>
    cases htook
    -- There is a call, so a name has not become a variable.
    refine ⟨hend, fun | .calls h => .operand (.chain ?_ h)⟩
    exact hk.imp_left fun ⟨hk, hp⟩ => ⟨hk, hp, by simp⟩
  | right hop hmin =>
    cases htook
    exact ⟨hend, fun | .operand h => .climb (.fold hop hmin h (.stop_of_breaks hend _ _ _)
      (.stop_of_breaks hend _ _ _))⟩
  | rightClimb hop hmin hr₀ =>
    cases htook
    exact ⟨hend, fun | .climb h => .climb (.fold hop hmin hr₀ h (.stop_of_breaks hend _ _ _))⟩
  | fold hop hmin hr₀ hr =>
    cases htook
    exact ⟨hend, fun | .climb h => .climb (.fold hop hmin hr₀ hr h)⟩
  | first =>
    cases htook
    exact ⟨hend, fun | .operand h => .expression (.expression h (.stop_of_breaks hend _ _ _))⟩
  | operators hl =>
    cases htook
    exact ⟨hend, fun | .climb h => .expression (.expression hl h)⟩
  | arguments _ hk =>
    cases htook
    exact ⟨hend, fun | .elements h => .arguments (.arguments hk h)⟩
  | @element _ _ close hclose =>
    obtain ⟨hc, -, htook⟩ := htook.cons_inv
    cases htook
    have hkind : c'.current.kind = close := by rw [hc]; rfl
    refine ⟨?_, fun | .expression h => .elements (.last hclose h hkind)⟩
    rw [hkind]
    rcases hclose with rfl | rfl
    · exact (by decide : Kind.rParen.Breaks)
    · exact (by decide : Kind.rBracket.Breaks)
  | more he hk =>
    cases htook
    exact ⟨hend, fun | .elements h => .elements (.more he hk h)⟩
  | call hm hn hp =>
    cases htook
    exact ⟨hend, fun | .arguments h => .calls (.call hm hn hp h (.noCalls hend.2.1))⟩
  | calls hm hn hp hes =>
    cases htook
    exact ⟨hend, fun | .calls h => .calls (.call hm hn hp hes h)⟩
  | expr hk =>
    cases htook
    exact ⟨hend, fun | .expression h => .statement (.expr hk h)⟩
  | value hk hn ha =>
    cases htook
    exact ⟨hend, fun | .expression h => .statement (.value hk hn ha h)⟩
  | statement hk =>
    cases htook
    have hkind : c'.current.kind = .eof := hend
    refine ⟨?_, fun | .statement h => .statements (.cons hk h (.nil hend))⟩
    rw [hkind]
    exact (by decide : Kind.eof.Breaks)
  | laterStatement hk hs =>
    cases htook
    exact ⟨hend, fun | .statements h => .statements (.cons hk hs h)⟩
  | laterDbrp hk hdb hdbv hdot hrp hrpv =>
    cases htook
    exact ⟨hend, fun | .dbrps h => .dbrps (.cons hk hdb hdbv hdot hrp hrpv h)⟩
  | dbrps =>
    cases htook
    exact ⟨hend, fun | .dbrps h => .program h (.nil hend)⟩
  | statements hds =>
    cases htook
    exact ⟨hend, fun | .statements h => .program hds h⟩

/-- What closes a level is not the end of the input. -/
theorem Enters.closing_ne_eof {a a₁ : Attempt} {c c₁ : Cursor} {closing : List Kind}
    (h : Enters a c a₁ c₁ closing) : ∀ k ∈ closing, k ≠ .eof := by
  cases h with
  | element hclose => rcases hclose with rfl | rfl <;> simp
  | _ => simp

/-- What closes all levels is not the end of the input. -/
theorem Inside.closing_ne_eof {a a₁ : Attempt} {c c₁ : Cursor} {closing : List Kind}
    (h : Inside a c a₁ c₁ closing) : ∀ k ∈ closing, k ≠ .eof := by
  induction h with
  | refl => simp
  | step h _ ih =>
    intro k hk
    rcases List.mem_append.1 hk with hk | hk
    · exact ih k hk
    · exact h.closing_ne_eof k hk

/-- The levels are closed from the innermost to the outermost. -/
theorem Inside.completes {a a₁ : Attempt} {c c₁ : Cursor} {closing : List Kind}
    (h : Inside a c a₁ c₁ closing) {c' c'' : Cursor}
    (htook : Took c' (closing.map Kind.sample) c'') (hend : a.EndsBefore c''.current.kind) :
    a₁.EndsBefore c'.current.kind ∧ (Completes a₁ c₁ c' → Completes a c c'') := by
  induction h generalizing c'' with
  | refl =>
    cases htook
    exact ⟨hend, id⟩
  | step h _ ih =>
    rw [List.map_append] at htook
    obtain ⟨d, htook₁, htook₂⟩ := htook.append_inv
    obtain ⟨hend₁, hcomplete⟩ := h.completes htook₂ hend
    obtain ⟨hend₂, hcomplete₁⟩ := ih htook₁ hend₁
    exact ⟨hend₂, fun h => hcomplete (hcomplete₁ h)⟩

/-! ## Errors at a token -/

namespace Program

/-- Reading a program from `c` stops because of the token at `c'`, with `depth` levels of nesting
open. -/
def StopsAt (depth : Nat) (c c' : Cursor) : Prop :=
  ∃ a c₁ closing expected missing, Inside .program c a c₁ closing ∧
    Faults a expected c₁ c' missing ∧ a.depth = depth

/-- The failure of a program at a token is its failure at that token whatever follows. -/
theorem movable_of_faults {a : Attempt} {expected : String} {c c₁ c' : Cursor}
    {closing missing : List Kind} (hin : Inside .program c a c₁ closing)
    (hf : Faults a expected c₁ c' missing) :
    Movable (fun _ => False) (fun d d' => reader d = .error (c'.unexpected expected) d') c c' := by
  have hfault : Movable (fun _ => False) (fun d d' => c₁.Fits (· = .boolean) d ∧
      Faults a expected d d' missing ∧ d'.current = c'.current) c₁ c' := by
    refine (hf.movable.append (Movable.here c')).fits.mono fun d d' ⟨hs, d₁, h, hd, hcur⟩ => ?_
    exact ⟨hs.mono nofun, hd ▸ ⟨h, hcur⟩⟩
  refine (hin.movable.seq hfault).mono fun d d' ⟨d₁, hin, hf, hcur⟩ => ?_
  rw [← Cursor.unexpected_congr hcur]
  exact hin.fails hf.fails

/-- Tokens that complete a program are parsed as one. -/
theorem exists_program {ts : List Token} {c : Cursor} (h : Completes .program (.ofList ts) c) :
    ∃ p, ofTokens ts = .ok p := by
  cases h with
  | program hds hss =>
    unfold ofTokens
    rw [reader_of_derives hds hss]
    exact ⟨_, rfl⟩

/-- What a program that stops at a token has read before it begins a program. -/
theorem exists_completion {depth : Nat} {c c' : Cursor} (h : StopsAt depth c c')
    (hdepth : depth < maxNesting) {before : List Token} (htook : Took c before c') :
    ∃ more last p, (∀ t ∈ more, t.kind ≠ .eof) ∧ last.kind = .eof ∧
      ofTokens (before ++ more ++ [last]) = .ok p := by
  obtain ⟨a, c₁, closing, expected, missing, hin, hf, rfl⟩ := h
  obtain ⟨ts, hts, -, hmove⟩ := hin.movable.seq (hf.completes hdepth)
  obtain rfl := htook.tokens_unique hts
  have hsample : ∀ {ks : List Kind}, (∀ k ∈ ks, k ≠ .eof) → ∀ t ∈ ks.map Kind.sample,
      t.kind ≠ .eof := by
    intro ks hks t ht
    obtain ⟨k, hk, rfl⟩ := List.mem_map.1 ht
    exact hks k hk
  have hmissing := hsample hf.missing_ne_eof
  have hclosing := hsample hin.closing_ne_eof
  -- The missing tokens complete the innermost level, the closing ones those around it.
  let tail := closing.map Kind.sample ++ [Kind.eof.sample]
  have h₁ : Took (.ofList (before ++ (missing.map Kind.sample ++ tail))) before
      (.ofList (missing.map Kind.sample ++ tail)) :=
    Cursor.took_ofList_append (by simp [tail]) htook.ne_eof
  have h₂ : Took (.ofList (missing.map Kind.sample ++ tail)) (missing.map Kind.sample)
      (.ofList tail) :=
    Cursor.took_ofList_append (by simp [tail]) hmissing
  have h₃ : Took (.ofList tail) (closing.map Kind.sample) (.ofList [Kind.eof.sample]) :=
    Cursor.took_ofList_append (by simp) hclosing
  have hhead : missing.head? =
      some (Cursor.ofList (missing.map Kind.sample ++ tail)).current.kind := by
    obtain ⟨k, ks, rfl⟩ := List.exists_cons_of_ne_nil hf.missing_ne_nil
    rfl
  obtain ⟨d₁, hin', hcompletes⟩ := hmove _ _ h₁ (.inr hhead)
  obtain ⟨hend, hcloses⟩ := hin'.completes h₃ rfl
  obtain ⟨p, hp⟩ := exists_program (hcloses (hcompletes _ h₂ hend))
  refine ⟨missing.map Kind.sample ++ closing.map Kind.sample, Kind.eof.sample, p, ?_, rfl, ?_⟩
  · intro t ht
    rcases List.mem_append.1 ht with ht | ht
    · exact hmissing t ht
    · exact hclosing t ht
  · rw [List.append_assoc, List.append_assoc]
    exact hp

/-- Where reading a list of tokens fails because of one of them, that token is the first that
belongs to no program: up to and including it every list of tokens fails with the same error at the
same token, and the tokens before it begin a program, if the nesting is below its limit there. No
malformed token is passed over. -/
theorem ofTokens_valid_prefix {ts : List Token} (heof : ∃ t ∈ ts, t.kind = .eof) {e : SyntaxError}
    (h : ofTokens ts = .error e) (he : e.fault.InToken) :
    ∃ before bad after, ts = before ++ bad :: after ∧ e.position = bad.position ∧
      (∀ rest, reader (.ofList (before ++ bad :: rest)) = .error e ⟨bad, rest⟩) ∧
      (∀ t ∈ before, t.kind ≠ .error) ∧
      (∃ depth, StopsAt depth (.ofList ts) ⟨bad, after⟩) ∧
      ∀ depth, StopsAt depth (.ofList ts) ⟨bad, after⟩ → depth < maxNesting →
        ∃ more last p, (∀ t ∈ more, t.kind ≠ .eof) ∧ last.kind = .eof ∧
          ofTokens (before ++ more ++ [last]) = .ok p := by
  unfold ofTokens at h
  split at h
  · cases h
  · next c hrun =>
    cases h
    obtain ⟨a, c₁, closing, expected, missing, hin, hf, rfl⟩ := stalls_program_iff.2 ⟨hrun, he⟩
    obtain ⟨before, htook, hproper, hmove⟩ := movable_of_faults hin hf
    have hsplit : ts = before ++ c.current :: c.rest := by
      cases ts with
      | nil => simp at heof
      | cons t ts => exact htook.eq_append heof
    refine ⟨before, c.current, c.rest, hsplit, rfl, ?_, hproper,
      ⟨_, a, c₁, closing, expected, missing, hin, hf, rfl⟩, ?_⟩
    · intro rest
      exact hmove _ _ (Cursor.took_ofList _ _ htook.ne_eof) (.inl rfl)
    · intro depth hstop hdepth
      exact exists_completion hstop hdepth htook

end Program

end Completions

section Sample

attribute [local instance] Pattern.engine

open Program

/-- A lambda inside parentheses lacks its colon: what stands before the name can go on. -/
theorem Program.ofTokens_valid_prefix_lambda :
    let opened : List Token :=
      [⟨.var, "var", ⟨0, 1, 1⟩, none⟩, ⟨.identifier, "x", ⟨4, 1, 5⟩, none⟩,
        ⟨.assign, "=", ⟨6, 1, 7⟩, none⟩, ⟨.lParen, "(", ⟨8, 1, 9⟩, none⟩,
        ⟨.lambda, "lambda", ⟨9, 1, 10⟩, none⟩]
    let name : Token := ⟨.identifier, "y", ⟨16, 1, 17⟩, none⟩
    tokenize "var x = (lambda y" = opened ++ name :: [.endAt ⟨17, 1, 18⟩] ∧
      (∀ rest, reader (.ofList (opened ++ name :: rest)) =
        .error ⟨⟨16, 1, 17⟩, .unexpected "identifier \"y\"" "':'"⟩ ⟨name, rest⟩) ∧
      ∃ more last p, ofTokens (opened ++ more ++ [last]) = .ok p := by
  intro opened name
  have htokens : tokenize "var x = (lambda y" = opened ++ name :: [.endAt ⟨17, 1, 18⟩] := by
    decide +kernel
  -- Six levels lead to the lambda, two of them of nesting.
  have hin : Inside .program (.ofList (opened ++ name :: [.endAt ⟨17, 1, 18⟩])) (.operand 127)
      ⟨⟨.lambda, "lambda", ⟨9, 1, 10⟩, none⟩, name :: [.endAt ⟨17, 1, 18⟩]⟩ [.rParen] :=
    .step (.statements (.nil (by decide))) (.step (.statement (by decide))
      (.step (.value rfl rfl rfl) (.step .first (.step (.paren rfl) (.step .first (.refl _ _))))))
  have hf : Faults (.operand 127) "':'"
      ⟨⟨.lambda, "lambda", ⟨9, 1, 10⟩, none⟩, name :: [.endAt ⟨17, 1, 18⟩]⟩
      ⟨name, [.endAt ⟨17, 1, 18⟩]⟩ [.colon, .boolean] :=
    .noColon rfl nofun
  have hshown : Cursor.unexpected ⟨name, [.endAt ⟨17, 1, 18⟩]⟩ "':'" =
      ⟨⟨16, 1, 17⟩, .unexpected "identifier \"y\"" "':'"⟩ := by
    decide +kernel
  have hrun : reader (.ofList (opened ++ name :: [.endAt ⟨17, 1, 18⟩])) =
      .error ⟨⟨16, 1, 17⟩, .unexpected "identifier \"y\"" "':'"⟩ ⟨name, [.endAt ⟨17, 1, 18⟩]⟩ :=
    hshown ▸ hin.fails hf.fails
  have herror : ofTokens (opened ++ name :: [.endAt ⟨17, 1, 18⟩]) =
      .error ⟨⟨16, 1, 17⟩, .unexpected "identifier \"y\"" "':'"⟩ := by
    rw [ofTokens, hrun]
  obtain ⟨before, bad, after, hts, -, hsame, -, -, hcomplete⟩ :=
    ofTokens_valid_prefix ⟨.endAt ⟨17, 1, 18⟩, by simp, rfl⟩ herror trivial
  have hplace := hsame after
  rw [← hts, hrun] at hplace
  cases hplace
  obtain rfl : before = opened := (List.append_cancel_right hts).symm
  obtain ⟨more, last, p, -, -, hp⟩ := hcomplete 2 ⟨_, _, _, _, _, hin, hf, rfl⟩ (by decide)
  exact ⟨htokens, hsame, more, last, p, hp⟩

end Sample

end Tickscript
