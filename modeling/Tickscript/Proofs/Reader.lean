import Mathlib.Tactic
import Tickscript.Token.Cursor

/-!
# Runs of readers

A reader is a function from a cursor to a value or an error, so a run of one is an equation. The
lemmas here open and close such equations at the places where readers are put together, and say
how far a cursor has moved: `Cursor.Took c ts c'` lists the tokens between two places, and
`Cursor.left` counts what is still ahead of one.

Behind the last token a cursor goes on with ends of input for ever, so `left` counts the last
token only as long as it is not such an end. No reader takes an end of input, which is why `Took`
excludes it.
-/

namespace Tickscript

namespace Cursor

/-- How many tokens are ahead, an end of input behind the last one not counted. -/
def left (c : Cursor) : Nat :=
  match c.rest with
  | [] => if c.current.kind = .eof then 0 else 1
  | _ :: ts => ts.length + 2

/-- There are at most as many tokens ahead as the input has. -/
theorem left_le_size (c : Cursor) : c.left ≤ c.size := by
  unfold left size
  split
  · next h => rw [h]; split <;> simp
  · next h => rw [h]; simp

/-- Taking a token leaves fewer of them. -/
theorem left_advance_lt {c : Cursor} (h : c.current.kind ≠ .eof) : c.advance.left < c.left := by
  obtain ⟨t, ts⟩ := c
  cases ts with
  | nil => simp [advance, left, Token.endAt, show t.kind ≠ .eof from h]
  | cons u us =>
    have hle : left ⟨u, us⟩ ≤ us.length + 1 := left_le_size ⟨u, us⟩
    show left ⟨u, us⟩ < us.length + 2
    omega

/-- With nothing ahead the input ends. -/
theorem current_eq_eof_of_left {c : Cursor} (h : c.left = 0) : c.current.kind = .eof := by
  unfold left at h
  split at h
  · by_contra hne
    simp [hne] at h
  · omega

/-- From `c` the tokens `ts`, none of which ends the input, lead to `c'`. -/
inductive Took : Cursor → List Token → Cursor → Prop where
  | nil (c : Cursor) : Took c [] c
  | cons {c c' : Cursor} {ts : List Token} (hne : c.current.kind ≠ .eof)
      (h : Took c.advance ts c') : Took c (c.current :: ts) c'

/-- One token is taken by going on. -/
theorem Took.single {c : Cursor} (hne : c.current.kind ≠ .eof) :
    Took c [c.current] c.advance :=
  .cons hne (.nil _)

/-- Tokens taken in two runs are taken in one. -/
theorem Took.append {c c₁ c₂ : Cursor} {ts us : List Token} (h₁ : Took c ts c₁)
    (h₂ : Took c₁ us c₂) : Took c (ts ++ us) c₂ := by
  induction h₁ with
  | nil => exact h₂
  | cons hne _ ih => exact .cons hne (ih h₂)

theorem Took.cons_inv {c c' : Cursor} {t : Token} {ts : List Token} (h : Took c (t :: ts) c') :
    c.current = t ∧ t.kind ≠ .eof ∧ Took c.advance ts c' := by
  cases h with
  | cons hne h => exact ⟨rfl, hne, h⟩

/-- Tokens taken in one run are taken in two. -/
theorem Took.append_inv {c c' : Cursor} {ts us : List Token} (h : Took c (ts ++ us) c') :
    ∃ c₁, Took c ts c₁ ∧ Took c₁ us c' := by
  induction ts generalizing c with
  | nil => exact ⟨c, .nil c, h⟩
  | cons t ts ih =>
    obtain ⟨rfl, hne, h⟩ := h.cons_inv
    obtain ⟨c₁, h₁, h₂⟩ := ih h
    exact ⟨c₁, .cons hne h₁, h₂⟩

/-- As many tokens are gone as were taken, at least. -/
theorem Took.length_add_left_le {c c' : Cursor} {ts : List Token} (h : Took c ts c') :
    ts.length + c'.left ≤ c.left := by
  induction h with
  | nil => simp
  | cons hne _ ih =>
    have := left_advance_lt hne
    simp only [List.length_cons]
    omega

/-- A list of tokens is taken front to back, if something follows. -/
theorem took_ofList {ts : List Token} (u : Token) (us : List Token)
    (h : ∀ t ∈ ts, t.kind ≠ .eof) : Took (ofList (ts ++ u :: us)) ts (ofList (u :: us)) := by
  induction ts with
  | nil => exact .nil _
  | cons t ts ih =>
    have hadv : (ofList (t :: ts ++ u :: us)).advance = ofList (ts ++ u :: us) := by
      cases ts <;> rfl
    refine .cons (c := ofList (t :: ts ++ u :: us)) (h t (by simp)) ?_
    rw [hadv]
    exact ih fun x hx => h x (by simp [hx])

/-- Of two ways from one place, the longer passes through the end of the shorter. -/
theorem Took.prefix_total {c c₁ c₂ : Cursor} {ts us : List Token} (h₁ : Took c ts c₁)
    (h₂ : Took c us c₂) : ts <+: us ∨ us <+: ts := by
  induction h₁ generalizing us with
  | nil => exact .inl (List.nil_prefix)
  | cons _ _ ih =>
    cases h₂ with
    | nil => exact .inr (List.nil_prefix)
    | cons _ h₂ =>
      rcases ih h₂ with h | h
      · exact .inl (List.cons_prefix_cons.2 ⟨rfl, h⟩)
      · exact .inr (List.cons_prefix_cons.2 ⟨rfl, h⟩)

/-- The tokens taken determine the place they lead to. -/
theorem Took.unique {c c₁ c₂ : Cursor} {ts : List Token} (h₁ : Took c ts c₁)
    (h₂ : Took c ts c₂) : c₁ = c₂ := by
  induction h₁ with
  | nil => cases h₂; rfl
  | cons _ _ ih => exact ih h₂.cons_inv.2.2

/-- The two places determine the tokens between them. -/
theorem Took.tokens_unique {c c' : Cursor} {ts us : List Token} (h₁ : Took c ts c')
    (h₂ : Took c us c') : ts = us := by
  have hinitial : ∀ {ts us : List Token}, Took c ts c' → Took c us c' → ts <+: us → ts = us := by
    rintro ts _ h₁ h₂ ⟨vs, rfl⟩
    obtain ⟨c₁, h₃, h₄⟩ := h₂.append_inv
    obtain rfl := h₁.unique h₃
    have := h₄.length_add_left_le
    rw [List.eq_nil_of_length_eq_zero (by omega : vs.length = 0), List.append_nil]
  rcases h₁.prefix_total h₂ with h | h
  · exact hinitial h₁ h₂ h
  · exact (hinitial h₂ h₁ h).symm

/-- What is taken up to the end of input is all that comes before it. -/
theorem Took.eq_takeWhile {c c' : Cursor} {ts : List Token} (h : Took c ts c')
    (heof : c'.current.kind = .eof) :
    ts = (c.current :: c.rest).takeWhile (·.kind ≠ .eof) ∧
      c'.rest = ((c.current :: c.rest).dropWhile (·.kind ≠ .eof)).tail := by
  induction h with
  | nil => simp [heof]
  | @cons c c' ts hne h ih =>
    obtain ⟨hts, hrest⟩ := ih heof
    obtain ⟨t, us⟩ := c
    have hne : t.kind ≠ .eof := hne
    cases us with
    | nil =>
      simp only [advance, Token.endAt] at hts hrest
      simp [hts, hrest, hne]
    | cons u us =>
      rw [hts, hrest]
      simp [advance, hne]

end Cursor

namespace Reader

variable {α β : Type} {c c' : Cursor} {m : Reader α} {k : α → Reader β} {a : α} {e : SyntaxError}

/-- A value that is read is handed on. -/
theorem bind_ok (h : m c = .ok a c') : (m >>= k) c = k a c' := by
  show EStateM.bind m k c = _
  rw [EStateM.bind, h]

/-- An error ends the reading. -/
theorem bind_error (h : m c = .error e c') : (m >>= k) c = .error e c' := by
  show EStateM.bind m k c = _
  rw [EStateM.bind, h]

/-- What goes on from two equal runs goes on alike. -/
theorem bind_congr {m' : Reader α} {c₁ : Cursor} (h : m c = m' c₁) :
    (m >>= k) c = (m' >>= k) c₁ := by
  show EStateM.bind m k c = EStateM.bind m' k c₁
  rw [EStateM.bind, EStateM.bind, h]

/-- A run of two readers in a row is a run of each. -/
theorem bind_eq_ok {b : β} :
    (m >>= k) c = .ok b c' ↔ ∃ a c₁, m c = .ok a c₁ ∧ k a c₁ = .ok b c' := by
  cases h : m c with
  | ok a c₁ =>
    rw [bind_ok h]
    constructor
    · intro hk
      exact ⟨a, c₁, rfl, hk⟩
    · rintro ⟨_, _, ⟨⟩, hk⟩
      exact hk
  | error e c₁ => simp [bind_error h]

@[simp]
theorem pure_apply : (pure a : Reader α) c = .ok a c := rfl

/-- Readers are lifted to readers as they are. -/
@[simp]
theorem liftM_self (r : Reader α) : (liftM r : Reader α) = r := rfl

@[simp]
theorem peek_bind (k : Kind → Reader β) : (peek >>= k) c = k c.current.kind c := rfl

@[simp]
theorem current_bind (k : Token → Reader β) : (current >>= k) c = k c.current c := rfl

@[simp]
theorem take_bind (k : Token → Reader β) : (take >>= k) c = k c.current c.advance := rfl

@[simp]
theorem rounds_bind (k : Nat → Reader β) : (rounds >>= k) c = k c.size c := rfl

/-- A token that is expected is taken. -/
theorem expect_bind {kind : Kind} (h : c.current.kind = kind) (k : Token → Reader β) :
    (expect kind >>= k) c = k c.current c.advance :=
  bind_ok (if_pos h)

/-- Any other token is an error, and is left where it is. -/
theorem expect_bind_error {kind : Kind} (h : c.current.kind ≠ kind) (k : Token → Reader β) :
    (expect kind >>= k) c = .error (c.unexpected kind.describe) c :=
  bind_error (if_neg h)

/-- What is expected is read just if it is there. -/
theorem expect_eq_ok {kind : Kind} {t : Token} :
    expect kind c = .ok t c' ↔ c.current.kind = kind ∧ c.current = t ∧ c.advance = c' := by
  unfold expect
  split <;> simp_all

@[simp]
theorem literal_bind_ok {p : Position} (v : α) (k : α → Reader β) :
    (literal p (.ok v) >>= k) c = k v c := rfl

/-- A literal takes no token, and is read just if its text is. -/
theorem literal_eq_ok {p : Position} {r : Except LiteralError α} :
    literal p r c = .ok a c' ↔ r = .ok a ∧ c = c' := by
  cases r with
  | ok v => simp [literal]
  | error x => simp [literal]

/-- A node that holds the value of a literal. -/
theorem literal_bind_pure_eq_ok {p : Position} {r : Except LiteralError α} {f : α → β} {b : β} :
    (literal p r >>= fun a => pure (f a)) c = .ok b c' ↔ ∃ a, r = .ok a ∧ f a = b ∧ c = c' := by
  rw [bind_eq_ok]
  constructor
  · rintro ⟨a, c₁, hlit, h⟩
    obtain ⟨ha, rfl⟩ := literal_eq_ok.1 hlit
    cases h
    exact ⟨a, ha, rfl, rfl⟩
  · rintro ⟨a, ha, rfl, rfl⟩
    exact ⟨a, c, literal_eq_ok.2 ⟨ha, rfl⟩, rfl⟩

end Reader

end Tickscript
