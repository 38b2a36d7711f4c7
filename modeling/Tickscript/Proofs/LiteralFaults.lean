import Tickscript.Proofs.Stalls

/-!
# Faults in literals

Reading stops at the first literal whose text has no value, and the error tells the place of the
literal and the cause. This file shows that there is no other way to such an error: it is always
about a token of the input, and the cause is what the interpreter for literals of its kind says of
its text (`Token.Refused`).

The invariant is that a reader stays among the tokens it was given. `Reader.StaysAmong ts m` says
that every run of `m` from a place among the tokens `ts` ends at such a place, or with an error that
is right about them. It is kept where readers are put together, so for each reader it is enough to
go through its definition, and the result is `Program.refused_of_ofTokens`.
-/

namespace Tickscript

/-! ## Places among tokens -/

namespace Cursor

variable {ts : List Token} {c : Cursor}

/-- What is ahead of the cursor are some of the tokens `ts`, and ends of input. -/
def Among (ts : List Token) (c : Cursor) : Prop :=
  ∀ t ∈ c.current :: c.rest, t.kind ≠ .eof → t ∈ ts

/-- A cursor that goes on has no other tokens ahead of it. -/
theorem Among.advance (h : c.Among ts) : c.advance.Among ts := by
  intro t ht hne
  obtain ⟨u, us⟩ := c
  cases us with
  | nil =>
    -- behind the last token there is only the end of input
    have ht : t = Token.endAt u.position := by simpa [Cursor.advance] using ht
    rw [ht] at hne
    exact absurd rfl hne
  | cons v vs => exact h t (List.mem_cons_of_mem u ht) hne

/-- At first all tokens are ahead. -/
theorem among_ofList (ts : List Token) : (ofList ts).Among ts := by
  intro t ht hne
  cases ts with
  | nil =>
    have ht : t = Token.endAt .start := by simpa [ofList] using ht
    rw [ht] at hne
    exact absurd rfl hne
  | cons u us => exact ht

end Cursor

/-! ## Literals that are refused -/

variable [Regex.Engine]

/-- The token is a literal whose text has no value, for some cause. -/
inductive Token.Refused (t : Token) (cause : LiteralError) : Prop where
  | number (hk : t.kind = .number) (h : Number.read t.text = .error cause)
  | duration (hk : t.kind = .duration) (h : Duration.read t.text = .error cause)
  | string (hk : t.kind = .string) (h : Quote.readString t.text = .error cause)
  | reference (hk : t.kind = .reference) (h : Quote.readReference t.text = .error cause)
  | regex (hk : t.kind = .regex) (h : Regex.read t.text = .error cause)

/-- The end of input is no literal. -/
theorem Token.Refused.ne_eof {t : Token} {cause : LiteralError} (h : t.Refused cause) :
    t.kind ≠ .eof := by
  cases h with
  | number hk | duration hk | string hk | reference hk | regex hk =>
    rw [hk]
    decide

/-- Each interpreter reports causes of its own, so that only a string or a reference can be an
invalid string. -/
theorem Token.Refused.quoted {t : Token} {text : String} (h : t.Refused (.invalidString text)) :
    (t.kind = .string ∧ Quote.readString t.text = .error (.invalidString text)) ∨
      (t.kind = .reference ∧ Quote.readReference t.text = .error (.invalidString text)) := by
  cases h with
  | number _ h =>
    unfold Number.read at h
    simp only at h
    split at h
    · split at h
      · split at h <;> cases h
      · cases h
    · cases h
  | duration _ h =>
    unfold Duration.read at h
    split at h
    · cases h
    · split at h <;> cases h
  | string hk h => exact .inl ⟨hk, h⟩
  | reference hk h => exact .inr ⟨hk, h⟩
  | regex _ h =>
    unfold Regex.read at h
    split at h
    · cases h
    · unfold Regex.compile at h
      split at h <;> cases h

/-- If the error is about a literal, the literal is one of the tokens `ts`, and the error is at its
place. -/
def SyntaxError.Blames (ts : List Token) (e : SyntaxError) : Prop :=
  ∀ cause, e.fault = .literal cause → ∃ t ∈ ts, t.position = e.position ∧ t.Refused cause

/-- A token that was not expected is not blamed as a literal. -/
theorem Cursor.blames_unexpected {ts : List Token} (c : Cursor) (expected : String) :
    (c.unexpected expected).Blames ts := by
  intro cause h
  unfold Cursor.unexpected at h
  split at h <;> cases h

/-! ## Readers -/

namespace Reader

variable {α β : Type} {ts : List Token}

/-- A run has ended among the tokens `ts`, or with an error that is right about them. -/
inductive EndsAmong (ts : List Token) : EStateM.Result SyntaxError Cursor α → Prop where
  | ok {a : α} {c : Cursor} (h : c.Among ts) : EndsAmong ts (.ok a c)
  | error {e : SyntaxError} {c : Cursor} (h : e.Blames ts) : EndsAmong ts (.error e c)

/-- From among the tokens `ts` every run of the reader ends among them, or with an error that is
right about them. -/
def StaysAmong (ts : List Token) (m : Reader α) : Prop := ∀ c, c.Among ts → EndsAmong ts (m c)

/-- A run that ends among some tokens may go on with readers that stay among them. -/
theorem EndsAmong.bind {m : Reader α} {k : α → Reader β} {c : Cursor} (h : EndsAmong ts (m c))
    (hk : ∀ a, StaysAmong ts (k a)) : EndsAmong ts ((m >>= k) c) := by
  generalize hm : m c = r at h
  cases h with
  | ok hc =>
    rw [bind_ok hm]
    exact hk _ _ hc
  | error he =>
    rw [bind_error hm]
    exact .error he

/-- A literal whose text has no value is blamed rightly. -/
theorem endsAmong_literal {c : Cursor} (hc : c.Among ts) {r : Except LiteralError α}
    (h : ∀ cause, r = .error cause → c.current.Refused cause) :
    EndsAmong ts (literal c.current.position r c.advance) := by
  cases r with
  | ok a => exact .ok hc.advance
  | error x =>
    have hrefused := h x rfl
    refine .error fun cause hcause => ⟨c.current, ?_, rfl, ?_⟩
    · exact hc c.current (by simp) hrefused.ne_eof
    · cases hcause
      exact hrefused

namespace StaysAmong

/-- A reader that stays among some tokens leaves the cursor among them. -/
theorem among {m : Reader α} (h : StaysAmong ts m) {c c' : Cursor} {a : α} (hc : c.Among ts)
    (hrun : m c = .ok a c') : c'.Among ts := by
  have hends := h c hc
  rw [hrun] at hends
  cases hends with
  | ok hc' => exact hc'

/-- And if it fails, the error blames none but them. -/
theorem blames {m : Reader α} (h : StaysAmong ts m) {c c' : Cursor} {e : SyntaxError}
    (hc : c.Among ts) (hrun : m c = .error e c') : e.Blames ts := by
  have hends := h c hc
  rw [hrun] at hends
  cases hends with
  | error he => exact he

/-- Readers that stay among some tokens do so one after the other. -/
theorem bind {m : Reader α} {k : α → Reader β} (h : StaysAmong ts m)
    (hk : ∀ a, StaysAmong ts (k a)) : StaysAmong ts (m >>= k) :=
  fun c hc => (h c hc).bind hk

theorem pure (a : α) : StaysAmong ts (pure a) :=
  fun _ hc => .ok hc

theorem peek_bind {k : Kind → Reader β} (h : ∀ kind, StaysAmong ts (k kind)) :
    StaysAmong ts (peek >>= k) :=
  fun c hc => h c.current.kind c hc

theorem rounds_bind {k : Nat → Reader β} (h : ∀ n, StaysAmong ts (k n)) :
    StaysAmong ts (rounds >>= k) :=
  fun c hc => h c.size c hc

theorem take_bind {k : Token → Reader β} (h : ∀ t, StaysAmong ts (k t)) :
    StaysAmong ts (take >>= k) :=
  fun c hc => h c.current c.advance hc.advance

theorem expect_bind {kind : Kind} {k : Token → Reader β} (h : ∀ t, StaysAmong ts (k t)) :
    StaysAmong ts (expect kind >>= k) := by
  intro c hc
  by_cases hk : c.current.kind = kind
  · rw [Reader.expect_bind hk]
    exact h c.current c.advance hc.advance
  · rw [expect_bind_error hk]
    exact .error (c.blames_unexpected _)

theorem fail (expected : String) : StaysAmong ts (fail expected : Reader α) :=
  fun c _ => .error (c.blames_unexpected expected)

theorem tooDeep (limit : Nat) : StaysAmong ts (tooDeep limit : Reader α) := by
  intro c _
  refine .error fun cause h => ?_
  cases h

end StaysAmong

end Reader

/-! ## Readers of expressions -/

namespace Expr

open Reader (StaysAmong)

variable {ts : List Token}

section Element

variable {element : Reader Expr} (h : StaysAmong ts element)

include h

/-- The elements of a list stay among the tokens that their expressions stay among. -/
theorem staysAmong_elements (close : Kind) (rounds : Nat) :
    StaysAmong ts (elements element close rounds) := by
  induction rounds with
  | zero => exact .fail _
  | succ rounds ih =>
    unfold elements
    refine .bind h fun e => .peek_bind fun kind => ?_
    split
    · exact .take_bind fun _ => .bind ih fun _ => .pure _
    · exact .expect_bind fun _ => .pure _

theorem staysAmong_arguments (close : Kind) : StaysAmong ts (arguments element close) := by
  unfold arguments
  refine .peek_bind fun kind => ?_
  split
  · exact .take_bind fun _ => .pure _
  · exact .rounds_bind fun n => staysAmong_elements h close n

/-- So do the calls of a chain. -/
theorem staysAmong_calls (rounds : Nat) : StaysAmong ts (calls element rounds) := by
  induction rounds with
  | zero => exact .pure _
  | succ rounds ih =>
    have hargs : StaysAmong ts (callArguments element) :=
      .expect_bind fun _ => staysAmong_arguments h .rParen
    unfold calls
    refine .peek_bind fun kind => ?_
    split
    · exact .pure _
    · refine .take_bind fun _ => .expect_bind fun _ => ?_
      exact .bind hargs fun _ => .bind ih fun _ => .pure _

/-- So does a source with its calls. -/
theorem staysAmong_chainFrom (source : Token) (keyword : Bool) :
    StaysAmong ts (chainFrom element source keyword) := by
  unfold chainFrom
  refine .rounds_bind fun n => .bind (staysAmong_calls h n) fun cs => ?_
  split
  · exact .pure _
  · exact .pure _

/-- The literals are the places where the kind of the current token has to be known. -/
theorem staysAmong_primary : StaysAmong ts (primary element) := by
  intro c hc
  cases hk : c.current.kind
  case number =>
    rw [primary_number hk]
    exact (Reader.endsAmong_literal hc fun _ hx => .number hk hx).bind fun _ => .pure _
  case duration =>
    rw [primary_duration hk]
    exact (Reader.endsAmong_literal hc fun _ hx => .duration hk hx).bind fun _ => .pure _
  case string =>
    rw [primary_string hk]
    exact (Reader.endsAmong_literal hc fun _ hx => .string hk hx).bind fun _ => .pure _
  case reference =>
    rw [primary_reference hk]
    exact (Reader.endsAmong_literal hc fun _ hx => .reference hk hx).bind fun _ => .pure _
  case regex =>
    rw [primary_regex hk]
    exact (Reader.endsAmong_literal hc fun _ hx => .regex hk hx).bind fun _ => .pure _
  case boolean =>
    rw [primary_boolean hk]
    exact .ok hc.advance
  case star =>
    rw [primary_star hk]
    exact .ok hc.advance
  case lBracket =>
    rw [primary_lBracket hk]
    exact (staysAmong_arguments h .rBracket _ hc.advance).bind fun _ => .pure _
  case lambda =>
    rw [primary_lambda hk]
    exact StaysAmong.expect_bind (fun _ => .bind h fun _ => .pure _) _ hc.advance
  case lParen =>
    rw [primary_lParen hk]
    exact (h _ hc.advance).bind fun _ => .expect_bind fun _ => .pure _
  case identifier =>
    by_cases hp : c.advance.current.kind = .lParen
    · rw [primary_call hk hp]
      exact (staysAmong_arguments h .rParen _ hc.advance.advance).bind fun _ => .pure _
    · rw [primary_identifier hk hp]
      exact staysAmong_chainFrom h _ _ _ hc.advance
  case stream | batch =>
    rw [primary_keyword (by simp [hk])]
    exact staysAmong_chainFrom h _ _ _ hc.advance
  all_goals
    rw [primary_fail (by rw [hk]; rfl)]
    exact .error (c.blames_unexpected _)

end Element

/-- By recursion on the budget, as in the definitions. -/
theorem staysAmong_operand_climb (budget : Nat) :
    StaysAmong ts (operand budget) ∧ ∀ min left, StaysAmong ts (climb budget min left) := by
  induction budget with
  | zero =>
    refine ⟨.tooDeep _, fun min left => ?_⟩
    unfold climb
    refine .peek_bind fun kind => ?_
    split
    · exact .pure _
    · split
      · exact .pure _
      · exact .tooDeep _
  | succ budget ih =>
    obtain ⟨ihoperand, ihclimb⟩ := ih
    refine ⟨?_, fun min left => ?_⟩
    · unfold operand
      refine .peek_bind fun kind => ?_
      split
      · exact .take_bind fun _ => .bind ihoperand fun _ => .pure _
      · exact staysAmong_primary (.bind ihoperand fun e => ihclimb 1 e)
    · unfold climb
      refine .peek_bind fun kind => ?_
      split
      · exact .pure _
      · split
        · exact .pure _
        · refine .take_bind fun _ => .bind ihoperand fun e => ?_
          exact .bind (ihclimb _ e) fun _ => ihclimb _ _

/-- Reading an expression stays among the tokens ahead. -/
theorem staysAmong_reader : StaysAmong ts reader := by
  obtain ⟨hoperand, hclimb⟩ := @staysAmong_operand_climb _ ts maxNesting
  exact .bind hoperand fun e => hclimb 1 e

end Expr

/-! ## Readers of programs -/

open Reader (StaysAmong)

variable {ts : List Token}

theorem DbrpLine.staysAmong_name : StaysAmong ts name := by
  intro c hc
  by_cases hk : c.current.kind = .reference ∨ c.current.kind = .string
  · rw [name_eq hk]
    refine Reader.endsAmong_literal hc fun cause hcause => ?_
    unfold nameIn at hcause
    split at hcause
    · next href => exact .reference href hcause
    · next href => exact .string (hk.resolve_left href) hcause
  · rw [name_fail hk]
    exact .error (c.blames_unexpected _)

theorem DbrpLine.staysAmong_many (rounds : Nat) : StaysAmong ts (many rounds) := by
  have hreader : StaysAmong ts reader := by
    unfold reader
    refine .take_bind fun _ => .bind staysAmong_name fun _ => .expect_bind fun _ => ?_
    exact .bind staysAmong_name fun _ => .pure _
  induction rounds with
  | zero => exact .pure _
  | succ rounds ih =>
    unfold many
    refine .peek_bind fun kind => ?_
    split
    · exact .bind hreader fun _ => .bind ih fun _ => .pure _
    · exact .pure _

namespace Statement

/-- So does reading what a declaration binds. -/
theorem staysAmong_binding : StaysAmong ts (binding Expr.reader) := by
  simp only [binding, Reader.liftM_self]
  refine .peek_bind fun kind => ?_
  split
  · exact .take_bind fun _ => .bind Expr.staysAmong_reader fun _ => .pure _
  · intro c hc
    rw [Reader.current_bind]
    cases typeName? c.current with
    | none => exact .error (c.blames_unexpected _)
    | some type => exact .ok hc.advance

/-- So does reading a statement. -/
theorem staysAmong_reader : StaysAmong ts reader := by
  simp only [reader, readerOver, declaration, Reader.liftM_self]
  refine .peek_bind fun kind => ?_
  split
  · refine .take_bind fun _ => .expect_bind fun _ => ?_
    exact .bind staysAmong_binding fun _ => .pure _
  · exact .bind Expr.staysAmong_reader fun _ => .pure _

theorem staysAmong_many (rounds : Nat) : StaysAmong ts (many Expr.reader rounds) := by
  induction rounds with
  | zero => exact .pure _
  | succ rounds ih =>
    simp only [many, Reader.liftM_self]
    refine .peek_bind fun kind => ?_
    split
    · exact .pure _
    · exact .bind staysAmong_reader fun _ => .bind ih fun _ => .pure _

end Statement

/-- A program that fails because of a literal has this literal among its tokens, and the literal is
refused for the cause that is reported. -/
theorem Program.refused_of_ofTokens {e : SyntaxError} {cause : LiteralError}
    (h : ofTokens ts = .error e) (hcause : e.fault = .literal cause) :
    ∃ t ∈ ts, t.position = e.position ∧ t.Refused cause := by
  suffices hblames : e.Blames ts from hblames cause hcause
  obtain ⟨c, hrun⟩ : ∃ c, reader (.ofList ts) = .error e c := by
    unfold ofTokens at h
    split at h
    · cases h
    · next c hrun =>
      cases h
      exact ⟨c, hrun⟩
  simp only [reader, readerOver, Reader.liftM_self] at hrun
  rw [Reader.rounds_bind] at hrun
  have hc := Cursor.among_ofList ts
  rcases Reader.bind_eq_error.1 hrun with hrun | ⟨ds, c₁, hds, hrun⟩
  · exact (DbrpLine.staysAmong_many _).blames hc hrun
  have hc₁ := (DbrpLine.staysAmong_many _).among hc hds
  rw [Reader.rounds_bind] at hrun
  rcases Reader.bind_eq_error.1 hrun with hrun | ⟨ss, c₂, hss, hrun⟩
  · exact (Statement.staysAmong_many _).blames hc₁ hrun
  · -- taking the comment off the end of input never fails
    cases hrun

end Tickscript
