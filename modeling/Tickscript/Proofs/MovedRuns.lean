import Tickscript.Proofs.Stalls

/-!
# Runs at another place

What a reader does depends on the tokens it takes and on the one it stops at, never on what comes
after that. `Movable P R c c'` says so of a relation `R` between places: it holds from `d` to `d'`
whenever the tokens between `c` and `c'` are also those between `d` and `d'` and `d'` has the token
of `c'`. A reader looks at the token where it stops only to see that nothing goes on there, so `d'`
may also have a token of a kind in `P`, if no such token has to do with what was read: behind an
expression that is any kind that neither is an operator nor begins a call.

Derivations (`Derives.movable`), the levels of unfinished runs (`Inside.movable`) and failures at a
token (`Faults.movable`) can all be moved. On the way it is noted that none of them takes a
malformed token.
-/

namespace Tickscript

open Cursor (Took)

/-- A token of this kind ends whatever expression stands before it. -/
def Kind.Breaks (k : Kind) : Prop :=
  BinaryOp.ofKind? k = none ∧ CallKind.ofKind? k = none ∧ k ≠ .lParen

instance : DecidablePred Kind.Breaks := fun k =>
  inferInstanceAs (Decidable (BinaryOp.ofKind? k = none ∧ CallKind.ofKind? k = none ∧ k ≠ .lParen))

/-- The place `d` has the token of `c`, or one of a kind in `P`. -/
def Cursor.Fits (P : Kind → Prop) (c d : Cursor) : Prop :=
  d.current = c.current ∨ P d.current.kind

/-- What is true of the token at `c`, and of all kinds in `P`, is true of the token at `d`. -/
theorem Cursor.Fits.holds {P Q : Kind → Prop} {c d : Cursor} (h : c.Fits P d)
    (hP : ∀ k, P k → Q k) (hc : Q c.current.kind) : Q d.current.kind := by
  rcases h with h | h
  · rw [h]
    exact hc
  · exact hP _ h

/-- Where no token of a kind fits, the other place has none either. -/
theorem Cursor.Fits.ne {P : Kind → Prop} {c d : Cursor} (h : c.Fits P d) {x : Kind} (hx : ¬ P x)
    (hc : c.current.kind ≠ x) : d.current.kind ≠ x := by
  refine h.holds (Q := (· ≠ x)) ?_ hc
  rintro k hk rfl
  exact hx hk

theorem Cursor.Fits.mono {P Q : Kind → Prop} {c d : Cursor} (h : c.Fits P d)
    (hP : ∀ k, P k → Q k) : c.Fits Q d :=
  h.imp_right (hP _)

/-- Places from which the same tokens are taken fit, if the places behind them do. -/
theorem Cursor.Took.fits {P : Kind → Prop} {c c' d d' : Cursor} {ts : List Token}
    (h : Took c ts c') (hd : Took d ts d') (hs : c'.Fits P d') : c.Fits P d := by
  cases h with
  | nil =>
    cases hd
    exact hs
  | cons => exact .inl hd.cons_inv.1

/-- A reader takes tokens of this kind: neither the end of input nor malformed ones. -/
def Kind.Taken (k : Kind) : Prop := k ≠ .eof ∧ k ≠ .error

instance : DecidablePred Kind.Taken := fun k =>
  inferInstanceAs (Decidable (k ≠ .eof ∧ k ≠ .error))

/-- The tokens between `c` and `c'` are well formed, and `R` holds wherever they are taken and a
token that fits follows. -/
def Movable (P : Kind → Prop) (R : Cursor → Cursor → Prop) (c c' : Cursor) : Prop :=
  ∃ ts, Took c ts c' ∧ (∀ t ∈ ts, t.kind ≠ .error) ∧
    ∀ d d', Took d ts d' → c'.Fits P d' → R d d'

namespace Movable

variable {P Q : Kind → Prop} {R R₁ R₂ : Cursor → Cursor → Prop} {c c₁ c' : Cursor}

/-- A run that takes nothing can be moved to any place that fits. -/
theorem refl (P : Kind → Prop) (c : Cursor) : Movable P (fun d d' => d = d' ∧ c.Fits P d) c c := by
  refine ⟨[], .nil c, by simp, fun d d' hd hs => ?_⟩
  cases hd
  exact ⟨rfl, hs⟩

/-- What holds of a moved run may be weakened. -/
theorem mono (h : Movable P R c c') (hR : ∀ d d', R d d' → R₁ d d') : Movable P R₁ c c' := by
  obtain ⟨ts, hts, hne, hmove⟩ := h
  exact ⟨ts, hts, hne, fun d d' hd hs => hR d d' (hmove d d' hd hs)⟩

/-- At the very same token. -/
theorem here (c : Cursor) :
    Movable (fun _ => False) (fun d d' => d = d' ∧ d.current = c.current) c c :=
  (refl _ c).mono fun _ _ ⟨hd, hs⟩ => ⟨hd, hs.resolve_right id⟩

/-- Fewer places fit under a stronger condition. -/
theorem weaken (h : Movable P R c c') (hP : ∀ k, Q k → P k) : Movable Q R c c' := by
  obtain ⟨ts, hts, hne, hmove⟩ := h
  exact ⟨ts, hts, hne, fun d d' hd hs => hmove d d' hd (hs.mono hP)⟩

/-- A token fits where a run starts, if one fits where it ends. -/
theorem fits (h : Movable P R c c') : Movable P (fun d d' => c.Fits P d ∧ R d d') c c' := by
  obtain ⟨ts, hts, hne, hmove⟩ := h
  exact ⟨ts, hts, hne, fun d d' hd hs => ⟨hts.fits hd hs, hmove d d' hd hs⟩⟩

/-- A run that takes a token starts at the same one. -/
theorem first (h : Movable P R c c') (hlt : c'.left < c.left) :
    Movable P (fun d d' => d.current = c.current ∧ R d d') c c' := by
  obtain ⟨ts, hts, hne, hmove⟩ := h
  refine ⟨ts, hts, hne, fun d d' hd hs => ⟨?_, hmove d d' hd hs⟩⟩
  cases hts with
  | nil => omega
  | cons => exact hd.cons_inv.1

/-- One more token in front is moved with the run. -/
theorem token (h : Movable P R c.advance c') {k : Kind} (hk : c.current.kind = k)
    (htaken : k.Taken) :
    Movable P (fun d d' => d.current = c.current ∧ R d.advance d') c c' := by
  subst hk
  obtain ⟨ts, hts, hne, hmove⟩ := h
  refine ⟨c.current :: ts, .cons htaken.1 hts, ?_, fun d d' hd hs => ?_⟩
  · intro t ht
    rcases List.mem_cons.1 ht with rfl | ht
    · exact htaken.2
    · exact hne t ht
  · obtain ⟨hcur, -, hd⟩ := hd.cons_inv
    exact ⟨hcur, hmove _ d' hd hs⟩

/-- What is seen from one token alone. -/
theorem single {k : Kind} (hk : c.current.kind = k) (htaken : k.Taken)
    (hR : ∀ d, d.current = c.current → R d d.advance) :
    Movable P R c c.advance :=
  ((refl P c.advance).token hk htaken).mono fun d _ ⟨hcur, hd, _⟩ => hd ▸ hR d hcur

/-- Two runs in a row, if the second starts with a token that fits behind the first. -/
theorem seq (h₁ : Movable P R₁ c c₁) (h₂ : Movable Q (fun d d' => c₁.Fits P d ∧ R₂ d d') c₁ c') :
    Movable Q (fun d d' => ∃ d₁, R₁ d d₁ ∧ R₂ d₁ d') c c' := by
  obtain ⟨ts, hts, hne₁, hmove₁⟩ := h₁
  obtain ⟨us, hus, hne₂, hmove₂⟩ := h₂
  refine ⟨ts ++ us, hts.append hus, ?_, fun d d' hd hs => ?_⟩
  · intro t ht
    rcases List.mem_append.1 ht with ht | ht
    · exact hne₁ t ht
    · exact hne₂ t ht
  · obtain ⟨d₁, hd₁, hd₂⟩ := hd.append_inv
    obtain ⟨hs₁, hr₂⟩ := hmove₂ d₁ d' hd₂ hs
    exact ⟨d₁, hmove₁ d d₁ hd₁ hs₁, hr₂⟩

/-- Two runs, one after the other, are moved together. -/
theorem append (h₁ : Movable P R₁ c c₁) (h₂ : Movable P R₂ c₁ c') :
    Movable P (fun d d' => ∃ d₁, R₁ d d₁ ∧ R₂ d₁ d') c c' :=
  h₁.seq h₂.fits

end Movable

section Taken

variable {k : Kind}

/-- A token that is a unary operator is taken by readers. -/
theorem UnaryOp.taken {op : UnaryOp} (h : UnaryOp.ofKind? k = some op) : k.Taken := by
  constructor <;> rintro rfl <;> simp [UnaryOp.ofKind?] at h

theorem BinaryOp.taken {op : BinaryOp} (h : BinaryOp.ofKind? k = some op) : k.Taken := by
  constructor <;> rintro rfl <;> simp [BinaryOp.ofKind?] at h

theorem CallKind.taken {kind : CallKind} (h : CallKind.ofKind? k = some kind) : k.Taken := by
  constructor <;> rintro rfl <;> simp [CallKind.ofKind?] at h

theorem Kind.taken_of_close (h : k = .rParen ∨ k = .rBracket) : k.Taken := by
  rcases h with rfl | rfl <;> decide

theorem Kind.taken_of_quoted (h : k = .reference ∨ k = .string) : k.Taken := by
  rcases h with rfl | rfl <;> decide

end Taken

/-! ## Derivations -/

/-- A run for an expression can be moved to wherever the same tokens stand before a token that ends
it. -/
theorem Derives.movable [Regex.Engine] {g : Goal} {c c' : Cursor} (h : Derives g c c') :
    Movable Kind.Breaks (Derives g) c c' := by
  induction h with
  | unary hop _ ih =>
    refine (ih.token rfl (UnaryOp.taken hop)).mono fun d d' ⟨hcur, h⟩ => ?_
    rw [← hcur] at hop ⊢
    exact .unary hop h
  | number hk hv =>
    refine .single hk (by decide) fun d hcur => ?_
    rw [← hcur] at hk hv ⊢
    exact .number hk hv
  | duration hk hv =>
    refine .single hk (by decide) fun d hcur => ?_
    rw [← hcur] at hk hv ⊢
    exact .duration hk hv
  | string hk hv =>
    refine .single hk (by decide) fun d hcur => ?_
    rw [← hcur] at hk hv ⊢
    exact .string hk hv
  | reference hk hv =>
    refine .single hk (by decide) fun d hcur => ?_
    rw [← hcur] at hk hv ⊢
    exact .reference hk hv
  | regex hk hv =>
    refine .single hk (by decide) fun d hcur => ?_
    rw [← hcur] at hk hv ⊢
    exact .regex hk hv
  | boolean hk =>
    refine .single hk (by decide) fun d hcur => ?_
    rw [← hcur] at hk ⊢
    exact .boolean hk
  | star hk =>
    refine .single hk (by decide) fun d hcur => ?_
    rw [← hcur] at hk ⊢
    exact .star hk
  | list hk _ ih =>
    refine (ih.token hk (by decide)).mono fun d d' ⟨hcur, h⟩ => ?_
    rw [← hcur] at hk ⊢
    exact .list hk h
  | lambda hk hc _ ih =>
    refine ((ih.token hc (by decide)).token hk (by decide)).mono fun d d' ⟨hcur, hcur₁, h⟩ => ?_
    rw [← hcur] at hk ⊢
    rw [← hcur₁] at hc
    exact .lambda hk hc h
  | @paren _ c' _ _ hk _ hc ih =>
    have hclose := (Movable.refl Kind.Breaks c'.advance).token hc (by decide)
    refine ((ih.append hclose).token hk (by decide)).mono
      fun d d' ⟨hcur, d₁, h, hcur₁, hd, _⟩ => ?_
    rw [← hcur] at hk ⊢
    rw [← hcur₁] at hc
    exact hd ▸ .paren hk h hc
  | function hk hp _ ih =>
    refine ((ih.token hp (by decide)).token hk (by decide)).mono fun d d' ⟨hcur, hcur₁, h⟩ => ?_
    rw [← hcur] at hk ⊢
    rw [← hcur₁] at hp
    exact .function hk hp h
  | name hk hp hm =>
    -- Another token may follow the name, but none that makes a call of it.
    refine ((Movable.refl _ _).token hk (by decide)).mono fun d d' ⟨hcur, hd, hs⟩ => ?_
    rw [← hcur] at hk ⊢
    exact hd ▸ .name hk (hs.ne (by decide) hp)
      (hs.holds (Q := fun k => CallKind.ofKind? k = none) (fun k hb => hb.2.1) hm)
  | chain hk _ ih =>
    refine (ih.fits.token rfl ?_).mono fun d d' ⟨hcur, hs, h⟩ => ?_
    · rcases hk with ⟨h, -⟩ | h | h <;> rw [h] <;> decide
    · rw [← hcur] at hk ⊢
      refine .chain ?_ h
      rcases hk with ⟨hk, hp, hne⟩ | hk
      · exact .inl ⟨hk, hs.ne (by decide) hp, hne⟩
      · exact .inr hk
  | @stop c b min l hop =>
    refine (Movable.refl _ _).mono fun d d' ⟨hd, hs⟩ => hd ▸ .stop ?_
    refine hs.holds (Q := fun k => ∀ op, BinaryOp.ofKind? k = some op → op.precedence < min) ?_ hop
    intro k hb op hk
    rw [hb.1] at hk
    cases hk
  | fold hop hmin _ _ _ ih₁ ih₂ ih₃ =>
    refine ((ih₁.append (ih₂.append ih₃)).token rfl (BinaryOp.taken hop)).mono
      fun d d' ⟨hcur, d₁, h₁, d₂, h₂, h₃⟩ => ?_
    rw [← hcur] at hop h₃
    exact .fold hop hmin h₁ h₂ h₃
  | expression _ _ ih₁ ih₂ =>
    exact (ih₁.append ih₂).mono fun d d' ⟨d₁, h₁, h₂⟩ => .expression h₁ h₂
  | noArguments hclose hk =>
    refine .single hk (Kind.taken_of_close hclose) fun d hcur => ?_
    rw [← hcur] at hk
    exact .noArguments hclose hk
  | arguments hk hes ih =>
    -- An element takes a token, so `d` starts with the same one and not with the closing one.
    refine (ih.first hes.left_le).mono fun d d' ⟨hcur, h⟩ => ?_
    rw [← hcur] at hk
    exact .arguments hk h
  | last hclose _ hc ih =>
    refine (ih.append ((Movable.refl _ _).token hc (Kind.taken_of_close hclose))).mono
      fun d d' ⟨d₁, h, hcur, hd, _⟩ => ?_
    rw [← hcur] at hc
    exact hd ▸ .last hclose h hc
  | more _ hk _ ih₁ ih₂ =>
    refine (ih₁.append (ih₂.token hk (by decide))).mono fun d d' ⟨d₁, h₁, hcur, h₂⟩ => ?_
    rw [← hcur] at hk
    exact .more h₁ hk h₂
  | noCalls hm =>
    refine (Movable.refl _ _).mono fun d d' ⟨hd, hs⟩ => hd ▸ .noCalls ?_
    exact hs.holds (Q := fun k => CallKind.ofKind? k = none) (fun k hb => hb.2.1) hm
  | call hm hn hp _ _ ih₁ ih₂ =>
    refine ((((ih₁.append ih₂).token hp (by decide)).token hn (by decide)).token rfl
      (CallKind.taken hm)).mono fun d d' ⟨hcur, hcur₁, hcur₂, d₁, h₁, h₂⟩ => ?_
    rw [← hcur] at hm ⊢
    rw [← hcur₁] at hn ⊢
    rw [← hcur₂] at hp
    exact .call hm hn hp h₁ h₂

/-- So can a run for a statement. -/
theorem DerivesStatement.movable [Regex.Engine] {s : Statement} {c c' : Cursor}
    (h : DerivesStatement s c c') :
    Movable Kind.Breaks (DerivesStatement s) c c' := by
  cases h with
  | expr hk he =>
    refine (he.movable.first he.left_le).mono fun d d' ⟨hcur, h⟩ => ?_
    rw [← hcur] at hk
    exact .expr hk h
  | value hk hn ha he =>
    refine (((he.movable.token ha (by decide)).token hn (by decide)).token hk (by decide)).mono
      fun d d' ⟨hcur, hcur₁, hcur₂, h⟩ => ?_
    rw [← hcur] at hk ⊢
    rw [← hcur₁] at hn ⊢
    rw [← hcur₂] at ha
    exact .value hk hn ha h
  | template hk hn ht =>
    have htaken : c.advance.advance.current.kind.Taken := by
      rcases (kind_of_typeName? ht).1 with h | h <;> rw [h] <;> decide
    refine ((((Movable.refl _ _).token rfl htaken).token hn (by decide)).token hk (by decide)).mono
      fun d d' ⟨hcur, hcur₁, hcur₂, hd, _⟩ => ?_
    rw [← hcur] at hk ⊢
    rw [← hcur₁] at hn ⊢
    rw [← hcur₂] at ht
    exact hd ▸ .template hk hn ht

/-! ## Unfinished runs

Behind what an unfinished run has read completely comes the token where it goes on. That is the same
one at both places, unless the run fails right there and an operand is put in place of the token:
the condition `(· = .boolean)` leaves room for a literal. -/

theorem Kind.breaks_boolean : ∀ k, k = Kind.boolean → k.Breaks := by
  rintro _ rfl
  decide

/-- So can the `dbrp` lines, before the same token or a truth value. -/
theorem DerivesDbrps.movable {ds : List DbrpLine} {c c' : Cursor} (h : DerivesDbrps ds c c') :
    Movable (· = .boolean) (DerivesDbrps ds) c c' := by
  induction h with
  | nil hk =>
    refine (Movable.refl _ _).mono fun d d' ⟨hd, hs⟩ => hd ▸ .nil ?_
    exact hs.ne nofun hk
  | cons hk hdb hdbv hdot hrp hrpv _ ih =>
    refine ((((ih.token rfl (Kind.taken_of_quoted hrp)).token hdot (by decide)).token rfl
      (Kind.taken_of_quoted hdb)).token hk (by decide)).mono
      fun d d' ⟨hcur, hcur₁, hcur₂, hcur₃, h⟩ => ?_
    rw [← hcur] at hk ⊢
    rw [← hcur₁] at hdb hdbv
    rw [← hcur₂] at hdot
    rw [← hcur₃] at hrp hrpv
    exact .cons hk hdb hdbv hdot hrp hrpv h

variable [Regex.Engine]

/-- So can the part of an attempt up to where it nests. -/
theorem Enters.movable {a a₁ : Attempt} {c c₁ : Cursor} {closing : List Kind}
    (h : Enters a c a₁ c₁ closing) :
    Movable (· = .boolean) (fun d d₁ => Enters a d a₁ d₁ closing) c c₁ := by
  cases h with
  | unary hop =>
    refine .single rfl (UnaryOp.taken hop) fun d hcur => ?_
    rw [← hcur] at hop
    exact .unary hop
  | list hk =>
    refine .single hk (by decide) fun d hcur => ?_
    rw [← hcur] at hk
    exact .list hk
  | lambda hk hc =>
    refine (((Movable.refl _ _).token hc (by decide)).token hk (by decide)).mono
      fun d d' ⟨hcur, hcur₁, hd, _⟩ => ?_
    rw [← hcur] at hk
    rw [← hcur₁] at hc
    exact hd ▸ .lambda hk hc
  | paren hk =>
    refine .single hk (by decide) fun d hcur => ?_
    rw [← hcur] at hk
    exact .paren hk
  | function hk hp =>
    refine (((Movable.refl _ _).token hp (by decide)).token hk (by decide)).mono
      fun d d' ⟨hcur, hcur₁, hd, _⟩ => ?_
    rw [← hcur] at hk
    rw [← hcur₁] at hp
    exact hd ▸ .function hk hp
  | chain hk =>
    -- the token behind the source has been looked at, and a boolean there is no call either
    refine ((Movable.refl _ _).token rfl ?_).mono fun d d' ⟨hcur, hd, hs⟩ => hd ▸ .chain ?_
    · rcases hk with ⟨h, -⟩ | h | h <;> rw [h] <;> decide
    · rw [hcur]
      rcases hk with ⟨hk, hp⟩ | hk
      · exact .inl ⟨hk, hs.ne nofun hp⟩
      · exact .inr hk
  | right hop hmin =>
    refine .single rfl (BinaryOp.taken hop) fun d hcur => ?_
    rw [← hcur] at hop
    exact .right hop hmin
  | rightClimb hop hmin hr₀ =>
    refine ((hr₀.movable.weaken Kind.breaks_boolean).token rfl (BinaryOp.taken hop)).mono
      fun d d' ⟨hcur, h⟩ => ?_
    rw [← hcur] at hop
    exact .rightClimb hop hmin h
  | fold hop hmin hr₀ hr =>
    refine (((hr₀.movable.append hr.movable).weaken Kind.breaks_boolean).token rfl
      (BinaryOp.taken hop)).mono fun d d' ⟨hcur, d₁, h₁, h₂⟩ => ?_
    rw [← hcur] at hop ⊢
    exact .fold hop hmin h₁ h₂
  | first => exact (Movable.refl _ _).mono fun d d' ⟨hd, _⟩ => hd ▸ .first
  | operators hl =>
    exact (hl.movable.weaken Kind.breaks_boolean).mono fun d d' h => .operators h
  | arguments hclose hk =>
    refine (Movable.refl _ _).mono fun d d' ⟨hd, hs⟩ => hd ▸ .arguments hclose (hs.ne ?_ hk)
    rcases hclose with h | h <;> simp [h]
  | element hclose => exact (Movable.refl _ _).mono fun d d' ⟨hd, _⟩ => hd ▸ .element hclose
  | @more _ c₁ _ _ _ he hk =>
    have hcomma := (Movable.refl Kind.Breaks c₁.advance).token hk (by decide)
    refine ((he.movable.append hcomma).weaken Kind.breaks_boolean).mono
      fun d d' ⟨d₁, h, hcur, hd, _⟩ => ?_
    rw [← hcur] at hk
    exact hd ▸ .more h hk
  | call hm hn hp =>
    refine ((((Movable.refl _ _).token hp (by decide)).token hn (by decide)).token rfl
      (CallKind.taken hm)).mono fun d d' ⟨hcur, hcur₁, hcur₂, hd, _⟩ => ?_
    rw [← hcur] at hm
    rw [← hcur₁] at hn
    rw [← hcur₂] at hp
    exact hd ▸ .call hm hn hp
  | calls hm hn hp hes =>
    refine ((((hes.movable.weaken Kind.breaks_boolean).token hp (by decide)).token hn
      (by decide)).token rfl (CallKind.taken hm)).mono fun d d' ⟨hcur, hcur₁, hcur₂, h⟩ => ?_
    rw [← hcur] at hm
    rw [← hcur₁] at hn
    rw [← hcur₂] at hp
    exact .calls hm hn hp h
  | expr hk =>
    refine (Movable.refl _ _).mono fun d d' ⟨hd, hs⟩ => hd ▸ .expr ?_
    exact hs.ne nofun hk
  | value hk hn ha =>
    refine ((((Movable.refl _ _).token ha (by decide)).token hn (by decide)).token hk
      (by decide)).mono fun d d' ⟨hcur, hcur₁, hcur₂, hd, _⟩ => ?_
    rw [← hcur] at hk
    rw [← hcur₁] at hn
    rw [← hcur₂] at ha
    exact hd ▸ .value hk hn ha
  | statement hk =>
    refine (Movable.refl _ _).mono fun d d' ⟨hd, hs⟩ => hd ▸ .statement ?_
    exact hs.ne nofun hk
  | laterStatement hk hs =>
    refine ((hs.movable.first hs.left_lt).weaken Kind.breaks_boolean).mono
      fun d d' ⟨hcur, h⟩ => ?_
    rw [← hcur] at hk
    exact .laterStatement hk h
  | laterDbrp hk hdb hdbv hdot hrp hrpv =>
    refine (((((Movable.refl _ _).token rfl (Kind.taken_of_quoted hrp)).token hdot
      (by decide)).token rfl (Kind.taken_of_quoted hdb)).token hk (by decide)).mono
      fun d d' ⟨hcur, hcur₁, hcur₂, hcur₃, hd, _⟩ => ?_
    rw [← hcur] at hk
    rw [← hcur₁] at hdb hdbv
    rw [← hcur₂] at hdot
    rw [← hcur₃] at hrp hrpv
    exact hd ▸ .laterDbrp hk hdb hdbv hdot hrp hrpv
  | dbrps => exact (Movable.refl _ _).mono fun d d' ⟨hd, _⟩ => hd ▸ .dbrps
  | statements hds => exact hds.movable.mono fun d d' h => .statements h

/-- So can all parts of an attempt down to where it stops. -/
theorem Inside.movable {a a₁ : Attempt} {c c₁ : Cursor} {closing : List Kind}
    (h : Inside a c a₁ c₁ closing) :
    Movable (· = .boolean) (fun d d₁ => Inside a d a₁ d₁ closing) c c₁ := by
  induction h with
  | refl => exact (Movable.refl _ _).mono fun d d' ⟨hd, _⟩ => hd ▸ .refl _ _
  | step h _ ih => exact (h.movable.append ih).mono fun d d' ⟨d₁, h₁, h₂⟩ => .step h₁ h₂

/-- A failure at a token needs that token, and nothing behind it. -/
theorem Faults.movable {a : Attempt} {expected : String} {c c' : Cursor} {missing : List Kind}
    (h : Faults a expected c c' missing) :
    Movable (fun _ => False) (fun d d' => Faults a expected d d' missing) c c' := by
  have hfalse : ∀ {P : Kind → Prop} (k : Kind), False → P k := fun _ h => h.elim
  cases h with
  | noOperand hop hk =>
    refine (Movable.here c).mono fun d d' ⟨hd, hcur⟩ => ?_
    rw [← hcur] at hop hk
    exact hd ▸ .noOperand hop hk
  | noColon hk hc =>
    refine ((Movable.here _).token hk (by decide)).mono fun d d' ⟨hcur, hd, hcur₁⟩ => ?_
    rw [← hcur] at hk
    rw [← hcur₁] at hc
    exact hd ▸ .noColon hk hc
  | unclosed hk he hc =>
    refine (((he.movable.weaken hfalse).append (Movable.here _)).token hk (by decide)).mono
      fun d d' ⟨hcur, d₁, h, hd, hcur₁⟩ => ?_
    rw [← hcur] at hk
    rw [← hcur₁] at hc
    exact hd ▸ .unclosed hk h hc
  | noClose hclose he hcomma hc =>
    refine ((he.movable.weaken hfalse).append (Movable.here _)).mono
      fun d d' ⟨d₁, h, hd, hcur⟩ => ?_
    rw [← hcur] at hcomma hc
    exact hd ▸ .noClose hclose h hcomma hc
  | noCallee hm hn =>
    refine ((Movable.here _).token rfl (CallKind.taken hm)).mono
      fun d d' ⟨hcur, hd, hcur₁⟩ => ?_
    rw [← hcur] at hm
    rw [← hcur₁] at hn
    exact hd ▸ .noCallee hm hn
  | noParen hm hn hp =>
    refine (((Movable.here _).token hn (by decide)).token rfl (CallKind.taken hm)).mono
      fun d d' ⟨hcur, hcur₁, hd, hcur₂⟩ => ?_
    rw [← hcur] at hm
    rw [← hcur₁] at hn
    rw [← hcur₂] at hp
    exact hd ▸ .noParen hm hn hp
  | noName hk hn =>
    refine ((Movable.here _).token hk (by decide)).mono fun d d' ⟨hcur, hd, hcur₁⟩ => ?_
    rw [← hcur] at hk
    rw [← hcur₁] at hn
    exact hd ▸ .noName hk hn
  | noBinding hk hn ha ht =>
    refine (((Movable.here _).token hn (by decide)).token hk (by decide)).mono
      fun d d' ⟨hcur, hcur₁, hd, hcur₂⟩ => ?_
    rw [← hcur] at hk
    rw [← hcur₁] at hn
    rw [← hcur₂] at ha ht
    exact hd ▸ .noBinding hk hn ha ht
  | noDatabase hk hdb =>
    refine ((Movable.here _).token hk (by decide)).mono fun d d' ⟨hcur, hd, hcur₁⟩ => ?_
    rw [← hcur] at hk
    rw [← hcur₁] at hdb
    exact hd ▸ .noDatabase hk hdb
  | noDot hk hdb hdbv hdot =>
    refine (((Movable.here _).token rfl (Kind.taken_of_quoted hdb)).token hk (by decide)).mono
      fun d d' ⟨hcur, hcur₁, hd, hcur₂⟩ => ?_
    rw [← hcur] at hk
    rw [← hcur₁] at hdb hdbv
    rw [← hcur₂] at hdot
    exact hd ▸ .noDot hk hdb hdbv hdot
  | noPolicy hk hdb hdbv hdot hrp =>
    refine ((((Movable.here _).token hdot (by decide)).token rfl
      (Kind.taken_of_quoted hdb)).token hk (by decide)).mono
      fun d d' ⟨hcur, hcur₁, hcur₂, hd, hcur₃⟩ => ?_
    rw [← hcur] at hk
    rw [← hcur₁] at hdb hdbv
    rw [← hcur₂] at hdot
    rw [← hcur₃] at hrp
    exact hd ▸ .noPolicy hk hdb hdbv hdot hrp

end Tickscript
