import Tickscript.Proofs.DerivedRuns

/-!
# Runs that stop at a token

Where a run fails because of the token it stands on, it is inside a number of readers that have
each begun something. `Enters a c a₁ c₁ closing` is one level of that: the reader for `a`, started
at `c`, has come to the place `c₁` where it starts the reader for `a₁`. What it has read completely
on the way are derivations, and tokens of the kinds `closing` behind `a₁` would complete `a`.
`Inside` is any number of such levels, and `Faults a expected c c' missing` is what happens on the
innermost one: the reader for `a` stands at `c'` and finds something else than `expected`, and
tokens of the kinds `missing` would have completed `a`.

What is described in this way is a failed run (`Stalls.fails`), and every failure of that sort comes
about in this way (`stalls_program_iff`). Failures for other reasons, literals without a value and
nesting that is too deep, are left out.
-/

namespace Tickscript

/-- The fault lies in a token: it is not the expected one, or it is malformed. -/
def SyntaxFault.InToken : SyntaxFault → Prop
  | unexpected .. | malformed _ => True
  | literal _ | tooDeep _ => False

namespace Reader

variable {α β : Type} {c c' : Cursor} {m : Reader α} {k : α → Reader β} {e : SyntaxError}

/-- Of two readers in a row the first fails, or the second after a run of the first. -/
theorem bind_eq_error : (m >>= k) c = .error e c' ↔
    m c = .error e c' ∨ ∃ a c₁, m c = .ok a c₁ ∧ k a c₁ = .error e c' := by
  cases h : m c with
  | ok a c₁ => simp [bind_ok h]
  | error e' c₁ => simp [bind_error h]

/-- What is made of a result plays no part in a failure. -/
theorem bind_pure_eq_error {f : α → β} :
    (m >>= fun a => pure (f a)) c = .error e c' ↔ m c = .error e c' := by
  rw [bind_eq_error]
  simp

/-- An expected token is missing just if another one is there. -/
theorem expect_eq_error {kind : Kind} : expect kind c = .error e c' ↔
    c.current.kind ≠ kind ∧ c.unexpected kind.describe = e ∧ c = c' := by
  unfold expect
  split <;> simp_all

/-- A literal without a value is no error of a token. -/
theorem not_inToken_of_literal {p : Position} {r : Except LiteralError α}
    (h : literal p r c = .error e c') : ¬ e.fault.InToken := by
  cases r with
  | ok a => cases h
  | error x =>
    cases h
    exact id

end Reader

/-- A loop that has a token to take has a round left. -/
theorem Cursor.exists_round {c : Cursor} {rounds : Nat} (hne : c.current.kind ≠ .eof)
    (hle : c.left ≤ rounds) : ∃ r, rounds = r + 1 ∧ c.advance.left ≤ r := by
  have hlt := Cursor.left_advance_lt hne
  exact ⟨rounds - 1, by omega, by omega⟩

theorem CallKind.ne_eof_of_ofKind? {k : Kind} {kind : CallKind}
    (h : CallKind.ofKind? k = some kind) : k ≠ .eof := by
  rintro rfl
  simp [CallKind.ofKind?] at h

/-- Only quoted text names a database or a retention policy. -/
theorem DbrpLine.name_fail {c : Cursor}
    (hk : ¬ (c.current.kind = .reference ∨ c.current.kind = .string)) :
    name c = .error (c.unexpected "quoted database or retention policy name") c := by
  rw [name, Reader.peek_bind]
  cases h : c.current.kind <;> first | rfl | simp [h] at hk

/-- Where one line of databases fails, the lines fail. -/
theorem DbrpLine.many_error {c c' : Cursor} {e : SyntaxError} (hk : c.current.kind = .dbrp)
    (h : DbrpLine.reader c = .error e c') {rounds : Nat} (hle : c.left ≤ rounds) :
    many rounds c = .error e c' := by
  obtain ⟨rounds, rfl, -⟩ := Cursor.exists_round (by simp [hk]) hle
  rw [many, Reader.peek_bind, if_pos hk, Reader.bind_error h]

/-- A database or a retention policy is missing, or its text has no value. -/
theorem DbrpLine.of_name_error {c c' : Cursor} {e : SyntaxError} (he : e.fault.InToken)
    (h : name c = .error e c') :
    ¬ (c.current.kind = .reference ∨ c.current.kind = .string) ∧
      c.unexpected "quoted database or retention policy name" = e ∧ c = c' := by
  by_cases hk : c.current.kind = .reference ∨ c.current.kind = .string
  · have hlit := name_eq hk
    rw [h] at hlit
    exact absurd he (Reader.not_inToken_of_literal hlit.symm)
  · rw [name_fail hk] at h
    cases h
    exact ⟨hk, rfl, rfl⟩

/-- What a part of the reader is asked for. -/
inductive Attempt where
  | operand (budget : Nat)
  | climb (budget min : Nat) (left : Expr)
  | expression (budget : Nat)
  | arguments (budget : Nat) (close : Kind)
  | elements (budget : Nat) (close : Kind)
  | calls (budget : Nat)
  | statement
  | statements
  | dbrps
  | program

/-- How many levels of nesting are open while the tokens of the attempt itself are read. An
operand is a level of its own. -/
def Attempt.depth : Attempt → Nat
  | operand b => maxNesting + 1 - b
  | climb b .. | expression b | arguments b _ | elements b _ | calls b => maxNesting - b
  | statement | statements | dbrps | program => 0

variable [Regex.Engine]

/-- The reader for one attempt comes to start the reader for another one. -/
inductive Enters : Attempt → Cursor → Attempt → Cursor → List Kind → Prop where
  | unary {c : Cursor} {b : Nat} {op : UnaryOp} (hop : UnaryOp.ofKind? c.current.kind = some op) :
      Enters (.operand (b + 1)) c (.operand b) c.advance []
  | list {c : Cursor} {b : Nat} (hk : c.current.kind = .lBracket) :
      Enters (.operand (b + 1)) c (.arguments b .rBracket) c.advance []
  | lambda {c : Cursor} {b : Nat} (hk : c.current.kind = .lambda)
      (hc : c.advance.current.kind = .colon) :
      Enters (.operand (b + 1)) c (.expression b) c.advance.advance []
  | paren {c : Cursor} {b : Nat} (hk : c.current.kind = .lParen) :
      Enters (.operand (b + 1)) c (.expression b) c.advance [.rParen]
  | function {c : Cursor} {b : Nat} (hk : c.current.kind = .identifier)
      (hp : c.advance.current.kind = .lParen) :
      Enters (.operand (b + 1)) c (.arguments b .rParen) c.advance.advance []
  | chain {c : Cursor} {b : Nat}
      (hk : c.current.kind = .identifier ∧ c.advance.current.kind ≠ .lParen ∨
        c.current.kind = .stream ∨ c.current.kind = .batch) :
      Enters (.operand (b + 1)) c (.calls b) c.advance []
  | right {c : Cursor} {b min : Nat} {op : BinaryOp} {l : Expr}
      (hop : BinaryOp.ofKind? c.current.kind = some op) (hmin : min ≤ op.precedence) :
      Enters (.climb (b + 1) min l) c (.operand b) c.advance []
  | rightClimb {c c₁ : Cursor} {b min : Nat} {op : BinaryOp} {l r₀ : Expr}
      (hop : BinaryOp.ofKind? c.current.kind = some op) (hmin : min ≤ op.precedence)
      (hr₀ : Derives (.operand b r₀) c.advance c₁) :
      Enters (.climb (b + 1) min l) c (.climb b (op.precedence + 1) r₀) c₁ []
  | fold {c c₁ c₂ : Cursor} {b min : Nat} {op : BinaryOp} {l r₀ r : Expr}
      (hop : BinaryOp.ofKind? c.current.kind = some op) (hmin : min ≤ op.precedence)
      (hr₀ : Derives (.operand b r₀) c.advance c₁)
      (hr : Derives (.climb b (op.precedence + 1) r₀ r) c₁ c₂) :
      Enters (.climb (b + 1) min l) c (.climb b min (l.fold c.current op r)) c₂ []
  | first {c : Cursor} {b : Nat} : Enters (.expression b) c (.operand b) c []
  | operators {c c₁ : Cursor} {b : Nat} {l : Expr} (hl : Derives (.operand b l) c c₁) :
      Enters (.expression b) c (.climb b 1 l) c₁ []
  | arguments {c : Cursor} {b : Nat} {close : Kind} (hclose : close = .rParen ∨ close = .rBracket)
      (hk : c.current.kind ≠ close) : Enters (.arguments b close) c (.elements b close) c []
  | element {c : Cursor} {b : Nat} {close : Kind} (hclose : close = .rParen ∨ close = .rBracket) :
      Enters (.elements b close) c (.expression b) c [close]
  | more {c c₁ : Cursor} {b : Nat} {close : Kind} {e : Expr}
      (he : Derives (.expression b e) c c₁) (hk : c₁.current.kind = .comma) :
      Enters (.elements b close) c (.elements b close) c₁.advance []
  | call {c : Cursor} {b : Nat} {kind : CallKind}
      (hm : CallKind.ofKind? c.current.kind = some kind)
      (hn : c.advance.current.kind = .identifier)
      (hp : c.advance.advance.current.kind = .lParen) :
      Enters (.calls b) c (.arguments b .rParen) c.advance.advance.advance []
  | calls {c c₁ : Cursor} {b : Nat} {kind : CallKind} {es : List Expr}
      (hm : CallKind.ofKind? c.current.kind = some kind)
      (hn : c.advance.current.kind = .identifier)
      (hp : c.advance.advance.current.kind = .lParen)
      (hes : Derives (.arguments b .rParen es) c.advance.advance.advance c₁) :
      Enters (.calls b) c (.calls b) c₁ []
  | expr {c : Cursor} (hk : c.current.kind ≠ .var) :
      Enters .statement c (.expression maxNesting) c []
  | value {c : Cursor} (hk : c.current.kind = .var) (hn : c.advance.current.kind = .identifier)
      (ha : c.advance.advance.current.kind = .assign) :
      Enters .statement c (.expression maxNesting) c.advance.advance.advance []
  | statement {c : Cursor} (hk : c.current.kind ≠ .eof) : Enters .statements c .statement c []
  | laterStatement {c c₁ : Cursor} {s : Statement} (hk : c.current.kind ≠ .eof)
      (hs : DerivesStatement s c c₁) : Enters .statements c .statements c₁ []
  | laterDbrp {c : Cursor} {db rp : String} (hk : c.current.kind = .dbrp)
      (hdb : c.advance.current.kind = .reference ∨ c.advance.current.kind = .string)
      (hdbv : DbrpLine.nameIn c.advance.current = .ok db)
      (hdot : c.advance.advance.current.kind = .dot)
      (hrp : c.advance.advance.advance.current.kind = .reference ∨
        c.advance.advance.advance.current.kind = .string)
      (hrpv : DbrpLine.nameIn c.advance.advance.advance.current = .ok rp) :
      Enters .dbrps c .dbrps c.advance.advance.advance.advance []
  | dbrps {c : Cursor} : Enters .program c .dbrps c []
  | statements {c c₁ : Cursor} {ds : List DbrpLine} (hds : DerivesDbrps ds c c₁) :
      Enters .program c .statements c₁ []

/-- The reader for an attempt itself fails at a token. -/
inductive Faults : Attempt → String → Cursor → Cursor → List Kind → Prop where
  | noOperand {c : Cursor} {b : Nat} (hop : UnaryOp.ofKind? c.current.kind = none)
      (hk : Expr.startsPrimary c.current.kind = false) :
      Faults (.operand (b + 1)) "expression" c c [.boolean]
  | noColon {c : Cursor} {b : Nat} (hk : c.current.kind = .lambda)
      (hc : c.advance.current.kind ≠ .colon) :
      Faults (.operand (b + 1)) Kind.colon.describe c c.advance [.colon, .boolean]
  | unclosed {c c' : Cursor} {b : Nat} {e : Expr} (hk : c.current.kind = .lParen)
      (he : Derives (.expression b e) c.advance c') (hc : c'.current.kind ≠ .rParen) :
      Faults (.operand (b + 1)) Kind.rParen.describe c c' [.rParen]
  | noClose {c c' : Cursor} {b : Nat} {close : Kind} {e : Expr}
      (hclose : close = .rParen ∨ close = .rBracket) (he : Derives (.expression b e) c c')
      (hcomma : c'.current.kind ≠ .comma) (hc : c'.current.kind ≠ close) :
      Faults (.elements b close) close.describe c c' [close]
  | noCallee {c : Cursor} {b : Nat} {kind : CallKind}
      (hm : CallKind.ofKind? c.current.kind = some kind)
      (hn : c.advance.current.kind ≠ .identifier) :
      Faults (.calls b) Kind.identifier.describe c c.advance [.identifier, .lParen, .rParen]
  | noParen {c : Cursor} {b : Nat} {kind : CallKind}
      (hm : CallKind.ofKind? c.current.kind = some kind)
      (hn : c.advance.current.kind = .identifier)
      (hp : c.advance.advance.current.kind ≠ .lParen) :
      Faults (.calls b) Kind.lParen.describe c c.advance.advance [.lParen, .rParen]
  | noName {c : Cursor} (hk : c.current.kind = .var)
      (hn : c.advance.current.kind ≠ .identifier) :
      Faults .statement Kind.identifier.describe c c.advance [.identifier, .assign, .boolean]
  | noBinding {c : Cursor} (hk : c.current.kind = .var)
      (hn : c.advance.current.kind = .identifier)
      (ha : c.advance.advance.current.kind ≠ .assign)
      (ht : Statement.typeName? c.advance.advance.current = none) :
      Faults .statement "'=' or a template type" c c.advance.advance [.assign, .boolean]
  | noDatabase {c : Cursor} (hk : c.current.kind = .dbrp)
      (hdb : ¬ (c.advance.current.kind = .reference ∨ c.advance.current.kind = .string)) :
      Faults .dbrps "quoted database or retention policy name" c c.advance
        [.reference, .dot, .reference]
  | noDot {c : Cursor} {db : String} (hk : c.current.kind = .dbrp)
      (hdb : c.advance.current.kind = .reference ∨ c.advance.current.kind = .string)
      (hdbv : DbrpLine.nameIn c.advance.current = .ok db)
      (hdot : c.advance.advance.current.kind ≠ .dot) :
      Faults .dbrps Kind.dot.describe c c.advance.advance [.dot, .reference]
  | noPolicy {c : Cursor} {db : String} (hk : c.current.kind = .dbrp)
      (hdb : c.advance.current.kind = .reference ∨ c.advance.current.kind = .string)
      (hdbv : DbrpLine.nameIn c.advance.current = .ok db)
      (hdot : c.advance.advance.current.kind = .dot)
      (hrp : ¬ (c.advance.advance.advance.current.kind = .reference ∨
        c.advance.advance.advance.current.kind = .string)) :
      Faults .dbrps "quoted database or retention policy name" c c.advance.advance.advance
        [.reference]

/-- The reader for one attempt is inside the reader for another one. -/
inductive Inside : Attempt → Cursor → Attempt → Cursor → List Kind → Prop where
  | refl (a : Attempt) (c : Cursor) : Inside a c a c []
  | step {a a₁ a₂ : Attempt} {c c₁ c₂ : Cursor} {closing closing₁ : List Kind}
      (h : Enters a c a₁ c₁ closing) (hin : Inside a₁ c₁ a₂ c₂ closing₁) :
      Inside a c a₂ c₂ (closing₁ ++ closing)

/-- The run for an attempt stops at a token, on some level, with an error. -/
def Stalls (a : Attempt) (e : SyntaxError) (c c' : Cursor) : Prop :=
  ∃ a₁ c₁ closing expected missing, Inside a c a₁ c₁ closing ∧
    Faults a₁ expected c₁ c' missing ∧ c'.unexpected expected = e

/-- A run that fails at a token stops there. -/
theorem Faults.stalls {a : Attempt} {expected : String} {c c' : Cursor} {missing : List Kind}
    (h : Faults a expected c c' missing) : Stalls a (c'.unexpected expected) c c' :=
  ⟨a, c, [], expected, missing, .refl a c, h, rfl⟩

/-- Where an inner run stops, the outer one does. -/
theorem Enters.stalls {a a₁ : Attempt} {c c₁ c' : Cursor} {closing : List Kind} {e : SyntaxError}
    (h : Enters a c a₁ c₁ closing) (hs : Stalls a₁ e c₁ c') : Stalls a e c c' := by
  obtain ⟨a₂, c₂, closing₁, expected, missing, hin, hf, he⟩ := hs
  exact ⟨a₂, c₂, closing₁ ++ closing, expected, missing, .step h hin, hf, he⟩

/-! ## Stalls are failed runs -/

/-- The reader for an attempt fails. The loops do so with any number of rounds that is enough for
the tokens ahead. -/
def Attempt.Fails (e : SyntaxError) (c c' : Cursor) : Attempt → Prop
  | operand b => Expr.operand b c = .error e c'
  | climb b min l => Expr.climb b min l c = .error e c'
  | expression b => Expr.operation b 1 c = .error e c'
  | arguments b close => Expr.arguments (Expr.operation b 1) close c = .error e c'
  | elements b close => ∀ rounds, 0 < rounds → c.left ≤ rounds →
      Expr.elements (Expr.operation b 1) close rounds c = .error e c'
  | calls b => ∀ rounds, c.left ≤ rounds → Expr.calls (Expr.operation b 1) rounds c = .error e c'
  | statement => Statement.reader c = .error e c'
  | statements => ∀ rounds, c.left ≤ rounds → Statement.many Expr.reader rounds c = .error e c'
  | dbrps => ∀ rounds, c.left ≤ rounds → DbrpLine.many rounds c = .error e c'
  | program => Program.reader c = .error e c'

/-- A token that starts an operand, and is no unary operator, is read as one. -/
theorem Expr.operand_of_startsPrimary {c : Cursor} {b : Nat}
    (h : Expr.startsPrimary c.current.kind = true) :
    Expr.operand (b + 1) c = Expr.primary (Expr.operation b 1) c :=
  Expr.operand_primary (UnaryOp.ofKind?_of_startsPrimary h)

/-- Where an entered reader fails, the one it was entered from fails. -/
theorem Enters.fails {a a₁ : Attempt} {c c₁ c' : Cursor} {closing : List Kind} {e : SyntaxError}
    (h : Enters a c a₁ c₁ closing) (hf : a₁.Fails e c₁ c') : a.Fails e c c' := by
  -- a reader fails where a part of it fails, if the parts before it went well; a loop has to have
  -- rounds enough to come to the part, which the tokens that are left see to
  cases h with
  | unary hop =>
    show Expr.operand _ _ = _
    rw [Expr.operand_unary hop, Reader.bind_error hf]
  | list hk =>
    show Expr.operand _ _ = _
    rw [Expr.operand_of_startsPrimary (by rw [hk]; rfl), Expr.primary_lBracket hk,
      Reader.bind_error hf]
  | lambda hk hc =>
    show Expr.operand _ _ = _
    rw [Expr.operand_of_startsPrimary (by rw [hk]; rfl), Expr.primary_lambda hk,
      Reader.expect_bind hc, Reader.bind_error hf]
  | paren hk =>
    show Expr.operand _ _ = _
    rw [Expr.operand_of_startsPrimary (by rw [hk]; rfl), Expr.primary_lParen hk,
      Reader.bind_error hf]
  | function hk hp =>
    show Expr.operand _ _ = _
    rw [Expr.operand_of_startsPrimary (by rw [hk]; rfl), Expr.primary_call hk hp,
      Reader.bind_error hf]
  | chain hk =>
    show Expr.operand _ _ = _
    have hcalls := hf _ c.advance.left_le_size
    rcases hk with ⟨hk, hp⟩ | hk
    · rw [Expr.operand_of_startsPrimary (by rw [hk]; rfl), Expr.primary_identifier hk hp,
        Expr.chainFrom, Reader.liftM_self, Reader.rounds_bind, Reader.bind_error hcalls]
    · have hstarts : Expr.startsPrimary c.current.kind = true := by
        rcases hk with hk | hk <;> rw [hk] <;> rfl
      rw [Expr.operand_of_startsPrimary hstarts, Expr.primary_keyword hk, Expr.chainFrom,
        Reader.liftM_self, Reader.rounds_bind, Reader.bind_error hcalls]
  | @right _ b _ op _ hop hmin =>
    -- The operand and the climb after it are one reader here, the right side of the operator.
    show Expr.climb _ _ _ _ = _
    have hright : Expr.operation b (op.precedence + 1) _ = _ := Reader.bind_error hf
    rw [Expr.climb_fold hop hmin, Reader.bind_error hright]
  | rightClimb hop hmin hr₀ =>
    show Expr.climb _ _ _ _ = _
    have hright : Expr.operation _ _ _ = _ := (Reader.bind_ok hr₀.runs).trans hf
    rw [Expr.climb_fold hop hmin, Reader.bind_error hright]
  | fold hop hmin hr₀ hr =>
    show Expr.climb _ _ _ _ = _
    have hright : Expr.operation _ _ _ = _ := (Reader.bind_ok hr₀.runs).trans hr.runs
    rw [Expr.climb_fold hop hmin, Reader.bind_ok hright]
    exact hf
  | first => exact Reader.bind_error hf
  | operators hl => exact (Reader.bind_ok hl.runs).trans hf
  | arguments _ hk =>
    show Expr.arguments (Expr.operation _ _) _ _ = _
    rw [Expr.arguments_elements hk]
    exact hf _ c.size_pos c.left_le_size
  | element =>
    intro rounds hpos hle
    obtain ⟨rounds, rfl⟩ : ∃ r, rounds = r + 1 := ⟨rounds - 1, by omega⟩
    simp only [Expr.elements, Reader.liftM_self]
    rw [Reader.bind_error hf]
  | @more c c₁ _ _ _ he hk =>
    intro rounds hpos hle
    obtain ⟨rounds, rfl⟩ : ∃ r, rounds = r + 1 := ⟨rounds - 1, by omega⟩
    have h₁ := he.left_le
    have h₂ := Cursor.left_advance_lt (c := c₁) (by simp [hk])
    simp only [Goal.least] at h₁
    simp only [Expr.elements, Reader.liftM_self]
    rw [Reader.bind_ok he.runs, Reader.peek_bind, if_pos hk, Reader.take_bind,
      Reader.bind_error (hf rounds (by omega) (by omega))]
  | call hm hn hp =>
    intro rounds hle
    obtain ⟨rounds, rfl, -⟩ := Cursor.exists_round (CallKind.ne_eof_of_ofKind? hm) hle
    have hargs := (Expr.callArguments_arguments hp _).trans hf
    rw [Expr.calls_some hm, Reader.expect_bind hn, Reader.bind_error hargs]
  | calls hm hn hp hes =>
    -- A call is three tokens at least, so the rounds that are left are enough for the others.
    intro rounds hle
    obtain ⟨rounds, rfl, hle⟩ := Cursor.exists_round (CallKind.ne_eof_of_ofKind? hm) hle
    have h₁ := Cursor.left_advance_lt (c := c.advance) (by simp [hn])
    have h₂ := Cursor.left_advance_lt (c := c.advance.advance) (by simp [hp])
    have h₃ := hes.left_le
    have hargs := (Expr.callArguments_arguments hp _).trans hes.runs
    rw [Expr.calls_some hm, Reader.expect_bind hn, Reader.bind_ok hargs,
      Reader.bind_error (hf rounds (by omega))]
  | expr hk =>
    show Statement.reader _ = _
    have hexpr : Expr.reader c = _ := hf
    rw [Statement.reader, Statement.readerOver, Reader.liftM_self, Reader.peek_bind, if_neg hk,
      Reader.bind_error hexpr]
  | value hk hn ha =>
    show Statement.reader _ = _
    have hexpr : Expr.reader _ = _ := hf
    have hbinding : Statement.binding Expr.reader c.advance.advance = .error e c' := by
      simp only [Statement.binding, Reader.liftM_self]
      rw [Reader.peek_bind, if_pos ha, Reader.take_bind, Reader.bind_error hexpr]
    simp only [Statement.reader, Statement.readerOver, Statement.declaration, Reader.liftM_self]
    rw [Reader.peek_bind, if_pos hk, Reader.take_bind, Reader.expect_bind hn,
      Reader.bind_error hbinding]
  | statement hk =>
    intro rounds hle
    obtain ⟨rounds, rfl, -⟩ := Cursor.exists_round hk hle
    simp only [Statement.many, Reader.liftM_self]
    rw [Reader.peek_bind, if_neg hk, Reader.bind_error hf]
  | laterStatement hk hs =>
    intro rounds hle
    obtain ⟨rounds, rfl, -⟩ := Cursor.exists_round hk hle
    have hlt := hs.left_lt
    simp only [Statement.many, Reader.liftM_self]
    rw [Reader.peek_bind, if_neg hk, Reader.bind_ok hs.runs,
      Reader.bind_error (hf rounds (by omega))]
  | laterDbrp hk hdb hdbv hdot hrp hrpv =>
    intro rounds hle
    obtain ⟨rounds, rfl, hle⟩ := Cursor.exists_round (by simp [hk]) hle
    have h₁ := Cursor.left_advance_lt (c := c.advance) (by rcases hdb with h | h <;> simp [h])
    have h₂ := Cursor.left_advance_lt (c := c.advance.advance) (by simp [hdot])
    have h₃ := Cursor.left_advance_lt (c := c.advance.advance.advance)
      (by rcases hrp with h | h <;> simp [h])
    have hline := DbrpLine.reader_of_nameIn hdb hdbv hdot hrp hrpv
    rw [DbrpLine.many, Reader.peek_bind, if_pos hk, Reader.bind_ok hline,
      Reader.bind_error (hf rounds (by omega))]
  | dbrps =>
    show Program.reader _ = _
    rw [Program.reader, Program.readerOver, Reader.liftM_self, Reader.rounds_bind,
      Reader.liftM_self, Reader.bind_error (hf _ c.left_le_size)]
  | statements hds =>
    show Program.reader _ = _
    simp only [Program.reader, Program.readerOver, Reader.liftM_self]
    rw [Reader.rounds_bind, Reader.bind_ok (hds.runs c.left_le_size), Reader.rounds_bind,
      Reader.bind_error (hf _ c₁.left_le_size)]

/-- A fault is a failed run. -/
theorem Faults.fails {a : Attempt} {expected : String} {c c' : Cursor} {missing : List Kind}
    (h : Faults a expected c c' missing) : a.Fails (c'.unexpected expected) c c' := by
  cases h with
  | noOperand hop hk =>
    show Expr.operand _ _ = _
    rw [Expr.operand_primary hop, Expr.primary_fail hk]
  | noColon hk hc =>
    show Expr.operand _ _ = _
    rw [Expr.operand_of_startsPrimary (by rw [hk]; rfl), Expr.primary_lambda hk,
      Reader.expect_bind_error hc]
  | unclosed hk he hc =>
    show Expr.operand _ _ = _
    rw [Expr.operand_of_startsPrimary (by rw [hk]; rfl), Expr.primary_lParen hk,
      Reader.bind_ok he.runs, Reader.expect_bind_error hc]
  | noClose _ he hcomma hc =>
    intro rounds hpos hle
    obtain ⟨rounds, rfl⟩ : ∃ r, rounds = r + 1 := ⟨rounds - 1, by omega⟩
    simp only [Expr.elements, Reader.liftM_self]
    rw [Reader.bind_ok he.runs, Reader.peek_bind, if_neg hcomma, Reader.expect_bind_error hc]
  | noCallee hm hn =>
    intro rounds hle
    obtain ⟨rounds, rfl, -⟩ := Cursor.exists_round (CallKind.ne_eof_of_ofKind? hm) hle
    rw [Expr.calls_some hm, Reader.expect_bind_error hn]
  | @noParen _ b _ hm hn hp =>
    intro rounds hle
    obtain ⟨rounds, rfl, -⟩ := Cursor.exists_round (CallKind.ne_eof_of_ofKind? hm) hle
    have hargs : Expr.callArguments (Expr.operation b 1) _ = _ := Reader.expect_bind_error hp _
    rw [Expr.calls_some hm, Reader.expect_bind hn, Reader.bind_error hargs]
  | noName hk hn =>
    show Statement.reader _ = _
    simp only [Statement.reader, Statement.readerOver, Statement.declaration, Reader.liftM_self]
    rw [Reader.peek_bind, if_pos hk, Reader.take_bind, Reader.expect_bind_error hn]
  | noBinding hk hn ha ht =>
    show Statement.reader _ = _
    have hbinding : Statement.binding Expr.reader _ = _ := binding_of_no_typeName? ha ht
    simp only [Statement.reader, Statement.readerOver, Statement.declaration, Reader.liftM_self]
    rw [Reader.peek_bind, if_pos hk, Reader.take_bind, Reader.expect_bind hn,
      Reader.bind_error hbinding]
  | noDatabase hk hdb =>
    intro rounds hle
    refine DbrpLine.many_error hk ?_ hle
    rw [DbrpLine.reader, Reader.take_bind, Reader.bind_error (DbrpLine.name_fail hdb)]
  | noDot hk hdb hdbv hdot =>
    intro rounds hle
    refine DbrpLine.many_error hk ?_ hle
    rw [DbrpLine.reader, Reader.take_bind, Reader.bind_ok (DbrpLine.name_of_nameIn hdb hdbv),
      Reader.expect_bind_error hdot]
  | noPolicy hk hdb hdbv hdot hrp =>
    intro rounds hle
    refine DbrpLine.many_error hk ?_ hle
    rw [DbrpLine.reader, Reader.take_bind, Reader.bind_ok (DbrpLine.name_of_nameIn hdb hdbv),
      Reader.expect_bind hdot, Reader.bind_error (DbrpLine.name_fail hrp)]

/-- Where an inner run fails, the outer one fails alike. -/
theorem Inside.fails {a a₁ : Attempt} {c c₁ c' : Cursor} {closing : List Kind} {e : SyntaxError}
    (h : Inside a c a₁ c₁ closing) (hf : a₁.Fails e c₁ c') : a.Fails e c c' := by
  induction h with
  | refl => exact hf
  | step h _ ih => exact h.fails (ih hf)

/-- What stalls is a failed run. -/
theorem Stalls.fails {a : Attempt} {e : SyntaxError} {c c' : Cursor} (h : Stalls a e c c') :
    a.Fails e c c' := by
  obtain ⟨a₁, c₁, closing, expected, missing, hin, hf, rfl⟩ := h
  exact hin.fails hf.fails

/-! ## Failures at a token are stalls

As for derivations, what is assumed of the reader for nested expressions is what is to be shown of
the parts that use it. -/

section Parts

variable {element : Reader Expr} {b : Nat} {e : SyntaxError}
  (helem : ∀ {c c' x}, element c = .ok x c' → Derives (.expression b x) c c')
  (hstall : ∀ {c c'}, element c = .error e c' → Stalls (.expression b) e c c')

include helem hstall

/-- Elements that fail stop at a token, if expressions do. -/
theorem stalls_elements {close : Kind} (hclose : close = .rParen ∨ close = .rBracket)
    {rounds : Nat} : ∀ {c c' : Cursor}, 0 < rounds → c.left ≤ rounds →
      Expr.elements element close rounds c = .error e c' → Stalls (.elements b close) e c c' := by
  induction rounds with
  | zero =>
    intro c c' hpos
    omega
  | succ rounds ih =>
    intro c c' _ hle h
    simp only [Expr.elements, Reader.liftM_self] at h
    rcases Reader.bind_eq_error.1 h with h | ⟨x, c₁, hx, h⟩
    · exact (Enters.element hclose).stalls (hstall h)
    have hder := helem hx
    rw [Reader.peek_bind] at h
    split at h
    · next hk =>
      rw [Reader.take_bind, Reader.bind_pure_eq_error] at h
      -- The element and the comma are two tokens, so the rounds that are left are enough.
      have h₁ := hder.left_le
      have h₂ := Cursor.left_advance_lt (c := c₁) (by simp [hk])
      simp only [Goal.least] at h₁
      exact (Enters.more hder hk).stalls (ih (by omega) (by omega) h)
    · next hk =>
      rw [Reader.bind_pure_eq_error] at h
      obtain ⟨hc, rfl, rfl⟩ := Reader.expect_eq_error.1 h
      exact (Faults.noClose hclose hder hk hc).stalls

/-- Arguments that fail stop at a token, if expressions do. -/
theorem stalls_arguments {close : Kind} (hclose : close = .rParen ∨ close = .rBracket)
    {c c' : Cursor} (h : Expr.arguments element close c = .error e c') :
    Stalls (.arguments b close) e c c' := by
  by_cases hk : c.current.kind = close
  · rw [Expr.arguments_close hk] at h
    cases h
  · rw [Expr.arguments_elements hk] at h
    exact (Enters.arguments hclose hk).stalls
      (stalls_elements helem hstall hclose c.size_pos c.left_le_size h)

/-- Calls that fail stop at a token, if expressions do. -/
theorem stalls_calls {rounds : Nat} :
    ∀ {c c' : Cursor}, c.left ≤ rounds → Expr.calls element rounds c = .error e c' →
      Stalls (.calls b) e c c' := by
  induction rounds with
  | zero =>
    intro c c' _ h
    cases h
  | succ rounds ih =>
    intro c c' hle h
    cases hm : CallKind.ofKind? c.current.kind with
    | none =>
      rw [Expr.calls_none hm] at h
      cases h
    | some kind =>
      rw [Expr.calls_some hm] at h
      have h₁ := Cursor.left_advance_lt (CallKind.ne_eof_of_ofKind? hm)
      by_cases hn : c.advance.current.kind = .identifier
      case neg =>
        rw [Reader.expect_bind_error hn] at h
        cases h
        exact (Faults.noCallee hm hn).stalls
      rw [Reader.expect_bind hn] at h
      by_cases hp : c.advance.advance.current.kind = .lParen
      case neg =>
        have hargs : Expr.callArguments element _ = _ := Reader.expect_bind_error hp _
        rw [Reader.bind_error hargs] at h
        cases h
        exact (Faults.noParen hm hn hp).stalls
      rcases Reader.bind_eq_error.1 h with h | ⟨es, c₁, hes, h⟩
      · rw [Expr.callArguments_arguments hp] at h
        exact (Enters.call hm hn hp).stalls (stalls_arguments helem hstall (.inl rfl) h)
      · rw [Expr.callArguments_arguments hp] at hes
        rw [Reader.bind_pure_eq_error] at h
        have hargs := derives_arguments helem (.inl rfl) hes
        have h₂ := Cursor.left_advance_lt (c := c.advance) (by simp [hn])
        have h₃ := Cursor.left_advance_lt (c := c.advance.advance) (by simp [hp])
        have h₄ := hargs.left_le
        exact (Enters.calls hm hn hp hargs).stalls (ih (by omega) h)

/-- A chain that fails stops at a token, if expressions do. -/
theorem stalls_chainFrom {c c' : Cursor} {keyword : Bool}
    (hk : c.current.kind = .identifier ∧ c.advance.current.kind ≠ .lParen ∨
      c.current.kind = .stream ∨ c.current.kind = .batch)
    (h : Expr.chainFrom element c.current keyword c.advance = .error e c') :
    Stalls (.operand (b + 1)) e c c' := by
  simp only [Expr.chainFrom, Reader.liftM_self] at h
  rw [Reader.rounds_bind] at h
  rcases Reader.bind_eq_error.1 h with h | ⟨cs, c₁, hcs, h⟩
  · exact (Enters.chain hk).stalls (stalls_calls helem hstall c.advance.left_le_size h)
  · split at h <;> cases h

/-- An operand that fails at a token stops there, if expressions do. -/
theorem stalls_primary (he : e.fault.InToken) {c c' : Cursor}
    (hop : UnaryOp.ofKind? c.current.kind = none)
    (h : Expr.primary element c = .error e c') : Stalls (.operand (b + 1)) e c c' := by
  cases hk : c.current.kind
  case number =>
    rw [Expr.primary_number hk, Reader.bind_pure_eq_error] at h
    exact absurd he (Reader.not_inToken_of_literal h)
  case duration =>
    rw [Expr.primary_duration hk, Reader.bind_pure_eq_error] at h
    exact absurd he (Reader.not_inToken_of_literal h)
  case string =>
    rw [Expr.primary_string hk, Reader.bind_pure_eq_error] at h
    exact absurd he (Reader.not_inToken_of_literal h)
  case reference =>
    rw [Expr.primary_reference hk, Reader.bind_pure_eq_error] at h
    exact absurd he (Reader.not_inToken_of_literal h)
  case regex =>
    rw [Expr.primary_regex hk, Reader.bind_pure_eq_error] at h
    exact absurd he (Reader.not_inToken_of_literal h)
  case boolean =>
    rw [Expr.primary_boolean hk] at h
    cases h
  case star =>
    rw [Expr.primary_star hk] at h
    cases h
  case lBracket =>
    rw [Expr.primary_lBracket hk, Reader.bind_pure_eq_error] at h
    exact (Enters.list hk).stalls (stalls_arguments helem hstall (.inr rfl) h)
  case lambda =>
    rw [Expr.primary_lambda hk] at h
    by_cases hc : c.advance.current.kind = .colon
    · rw [Reader.expect_bind hc, Reader.bind_pure_eq_error] at h
      exact (Enters.lambda hk hc).stalls (hstall h)
    · rw [Reader.expect_bind_error hc] at h
      cases h
      exact (Faults.noColon hk hc).stalls
  case lParen =>
    rw [Expr.primary_lParen hk] at h
    rcases Reader.bind_eq_error.1 h with h | ⟨x, c₁, hx, h⟩
    · exact (Enters.paren hk).stalls (hstall h)
    · rw [Reader.bind_pure_eq_error] at h
      obtain ⟨hc, rfl, rfl⟩ := Reader.expect_eq_error.1 h
      exact (Faults.unclosed hk (helem hx) hc).stalls
  case identifier =>
    by_cases hp : c.advance.current.kind = .lParen
    · rw [Expr.primary_call hk hp, Reader.bind_pure_eq_error] at h
      exact (Enters.function hk hp).stalls (stalls_arguments helem hstall (.inl rfl) h)
    · rw [Expr.primary_identifier hk hp] at h
      exact stalls_chainFrom helem hstall (.inl ⟨hk, hp⟩) h
  case stream | batch =>
    rw [Expr.primary_keyword (by simp [hk])] at h
    exact stalls_chainFrom helem hstall (.inr (by simp [hk])) h
  -- Every other kind starts no operand, and that is what is wrong.
  all_goals
    have hstarts : Expr.startsPrimary c.current.kind = false := by
      rw [hk]
      rfl
    rw [Expr.primary_fail hstarts] at h
    cases h
    exact (Faults.noOperand hop hstarts).stalls

end Parts

/-- The operand reader and the climb, by recursion on the budget as in their definition. -/
theorem stalls_operand_climb {e : SyntaxError} (he : e.fault.InToken) (b : Nat) :
    (∀ {c c' : Cursor}, Expr.operand b c = .error e c' → Stalls (.operand b) e c c') ∧
    (∀ {min : Nat} {c c' : Cursor} {l : Expr}, Expr.climb b min l c = .error e c' →
      Stalls (.climb b min l) e c c') := by
  induction b with
  | zero =>
    refine ⟨fun h => ?_, fun {min c c' l} h => ?_⟩
    · rw [Expr.operand_zero] at h
      cases h
      exact he.elim
    · by_cases hstop : ∀ op, BinaryOp.ofKind? c.current.kind = some op → op.precedence < min
      · rw [Expr.climb_stop hstop] at h
        cases h
      · obtain ⟨op, hop, hmin⟩ := by simpa using hstop
        rw [Expr.climb_zero hop hmin] at h
        cases h
        exact he.elim
  | succ b ih =>
    obtain ⟨ihop, ihclimb⟩ := ih
    obtain ⟨derop, derclimb⟩ := derives_operand_climb b
    have hexpr : ∀ {c c' x}, Expr.operation b 1 c = .ok x c' → Derives (.expression b x) c c' := by
      intro c c' x h
      obtain ⟨l, c₁, hl, hx⟩ := Reader.bind_eq_ok.1 h
      exact .expression (derop hl) (derclimb hx)
    have hstall : ∀ {c c'}, Expr.operation b 1 c = .error e c' → Stalls (.expression b) e c c' := by
      intro c c' h
      rcases Reader.bind_eq_error.1 h with h | ⟨l, c₁, hl, h⟩
      · exact Enters.first.stalls (ihop h)
      · exact (Enters.operators (derop hl)).stalls (ihclimb h)
    refine ⟨fun {c c'} h => ?_, fun {min c c' l} h => ?_⟩
    · cases hop : UnaryOp.ofKind? c.current.kind with
      | some op =>
        rw [Expr.operand_unary hop, Reader.bind_pure_eq_error] at h
        exact (Enters.unary hop).stalls (ihop h)
      | none =>
        rw [Expr.operand_primary hop] at h
        exact stalls_primary hexpr hstall he hop h
    · by_cases hstop : ∀ op, BinaryOp.ofKind? c.current.kind = some op → op.precedence < min
      · rw [Expr.climb_stop hstop] at h
        cases h
      · obtain ⟨op, hop, hmin⟩ := by simpa using hstop
        rw [Expr.climb_fold hop hmin] at h
        -- The right operand fails, its own climb, or the climb that goes on with it.
        rcases Reader.bind_eq_error.1 h with h | ⟨r, c₂, hr, h⟩
        · rcases Reader.bind_eq_error.1 h with h | ⟨r₀, c₁, hr₀, h⟩
          · exact (Enters.right hop hmin).stalls (ihop h)
          · exact (Enters.rightClimb hop hmin (derop hr₀)).stalls (ihclimb h)
        · obtain ⟨r₀, c₁, hr₀, hr⟩ := Reader.bind_eq_ok.1 hr
          exact (Enters.fold hop hmin (derop hr₀) (derclimb hr)).stalls (ihclimb h)

/-- An expression that fails at a token stops there. -/
theorem stalls_expression {e : SyntaxError} (he : e.fault.InToken) {c c' : Cursor}
    (h : Expr.reader c = .error e c') : Stalls (.expression maxNesting) e c c' := by
  rcases Reader.bind_eq_error.1 h with h | ⟨l, c₁, hl, h⟩
  · exact Enters.first.stalls ((stalls_operand_climb he _).1 h)
  · exact (Enters.operators ((derives_operand_climb _).1 hl)).stalls
      ((stalls_operand_climb he _).2 h)

/-- A statement that fails at a token stops there. -/
theorem stalls_statement {e : SyntaxError} (he : e.fault.InToken) {c c' : Cursor}
    (h : Statement.reader c = .error e c') : Stalls .statement e c c' := by
  simp only [Statement.reader, Statement.readerOver, Statement.declaration, Reader.liftM_self] at h
  rw [Reader.peek_bind] at h
  by_cases hk : c.current.kind = .var
  case neg =>
    rw [if_neg hk, Reader.bind_pure_eq_error] at h
    exact (Enters.expr hk).stalls (stalls_expression he h)
  rw [if_pos hk, Reader.take_bind] at h
  by_cases hn : c.advance.current.kind = .identifier
  case neg =>
    rw [Reader.expect_bind_error hn] at h
    cases h
    exact (Faults.noName hk hn).stalls
  rw [Reader.expect_bind hn, Reader.bind_pure_eq_error] at h
  by_cases ha : c.advance.advance.current.kind = .assign
  · simp only [Statement.binding, Reader.liftM_self] at h
    rw [Reader.peek_bind, if_pos ha, Reader.take_bind, Reader.bind_pure_eq_error] at h
    exact (Enters.value hk hn ha).stalls (stalls_expression he h)
  · cases ht : Statement.typeName? c.advance.advance.current with
    | none =>
      rw [binding_of_no_typeName? ha ht] at h
      cases h
      exact (Faults.noBinding hk hn ha ht).stalls
    | some type =>
      rw [binding_of_typeName? ha ht] at h
      cases h

/-- Statements that fail at a token stop there. -/
theorem stalls_statements {e : SyntaxError} (he : e.fault.InToken) {rounds : Nat} :
    ∀ {c c' : Cursor}, c.left ≤ rounds → Statement.many Expr.reader rounds c = .error e c' →
      Stalls .statements e c c' := by
  induction rounds with
  | zero =>
    intro c c' _ h
    cases h
  | succ rounds ih =>
    intro c c' hle h
    simp only [Statement.many, Reader.liftM_self] at h
    rw [Reader.peek_bind] at h
    split at h
    · cases h
    · next hk =>
      rcases Reader.bind_eq_error.1 h with h | ⟨s, c₁, hs, h⟩
      · exact (Enters.statement hk).stalls (stalls_statement he h)
      · rw [Reader.bind_pure_eq_error] at h
        have hder := derives_statement hs
        have hlt := hder.left_lt
        exact (Enters.laterStatement hk hder).stalls (ih (by omega) h)

/-- Lines of databases that fail at a token stop there. -/
theorem stalls_dbrps {e : SyntaxError} (he : e.fault.InToken) {rounds : Nat} :
    ∀ {c c' : Cursor}, c.left ≤ rounds → DbrpLine.many rounds c = .error e c' →
      Stalls .dbrps e c c' := by
  induction rounds with
  | zero =>
    intro c c' _ h
    cases h
  | succ rounds ih =>
    intro c c' hle h
    rw [DbrpLine.many, Reader.peek_bind] at h
    split at h
    case isFalse => cases h
    next hk =>
    rcases Reader.bind_eq_error.1 h with h | ⟨d, c₁, hd, h⟩
    · rw [DbrpLine.reader, Reader.take_bind] at h
      rcases Reader.bind_eq_error.1 h with h | ⟨db, c₁, hdb, h⟩
      · obtain ⟨hdb, rfl, rfl⟩ := DbrpLine.of_name_error he h
        exact (Faults.noDatabase hk hdb).stalls
      obtain ⟨hdbk, hdbv, rfl⟩ := derives_dbrpName hdb
      rcases Reader.bind_eq_error.1 h with h | ⟨t, c₁, ht, h⟩
      · obtain ⟨hdot, rfl, rfl⟩ := Reader.expect_eq_error.1 h
        exact (Faults.noDot hk hdbk hdbv hdot).stalls
      obtain ⟨hdot, -, rfl⟩ := Reader.expect_eq_ok.1 ht
      rw [Reader.bind_pure_eq_error] at h
      obtain ⟨hrp, rfl, rfl⟩ := DbrpLine.of_name_error he h
      exact (Faults.noPolicy hk hdbk hdbv hdot hrp).stalls
    · rw [Reader.bind_pure_eq_error] at h
      rw [DbrpLine.reader, Reader.take_bind] at hd
      obtain ⟨db, d₁, hdb, hd⟩ := Reader.bind_eq_ok.1 hd
      obtain ⟨hdbk, hdbv, rfl⟩ := derives_dbrpName hdb
      obtain ⟨t, d₂, ht, hd⟩ := Reader.bind_eq_ok.1 hd
      obtain ⟨hdot, -, rfl⟩ := Reader.expect_eq_ok.1 ht
      obtain ⟨rp, d₃, hrp, hd⟩ := Reader.bind_eq_ok.1 hd
      obtain ⟨hrpk, hrpv, rfl⟩ := derives_dbrpName hrp
      cases hd
      have h₁ := Cursor.left_advance_lt (c := c) (by simp [hk])
      have h₂ := Cursor.left_advance_lt (c := c.advance) (by rcases hdbk with h | h <;> simp [h])
      have h₃ := Cursor.left_advance_lt (c := c.advance.advance) (by simp [hdot])
      have h₄ := Cursor.left_advance_lt (c := c.advance.advance.advance)
        (by rcases hrpk with h | h <;> simp [h])
      exact (Enters.laterDbrp hk hdbk hdbv hdot hrpk hrpv).stalls (ih (by omega) h)

/-- A program that fails at a token stops there. -/
theorem stalls_program {e : SyntaxError} (he : e.fault.InToken) {c c' : Cursor}
    (h : Program.reader c = .error e c') : Stalls .program e c c' := by
  simp only [Program.reader, Program.readerOver, Reader.liftM_self] at h
  rw [Reader.rounds_bind] at h
  rcases Reader.bind_eq_error.1 h with h | ⟨ds, c₁, hds, h⟩
  · exact Enters.dbrps.stalls (stalls_dbrps he c.left_le_size h)
  · have hder := derives_dbrps c.left_le_size hds
    rw [Reader.rounds_bind] at h
    rcases Reader.bind_eq_error.1 h with h | ⟨ss, c₂, hss, h⟩
    · exact (Enters.statements hder).stalls (stalls_statements he c₁.left_le_size h)
    · cases h

/-- Whatever stops at a token fails with an error of that token. -/
theorem Stalls.inToken {a : Attempt} {e : SyntaxError} {c c' : Cursor} (h : Stalls a e c c') :
    e.fault.InToken := by
  obtain ⟨_, _, _, expected, _, _, _, rfl⟩ := h
  unfold Cursor.unexpected
  cases c'.current.kind <;> trivial

/-- Reading a program fails at a token exactly where it stalls. -/
theorem stalls_program_iff {e : SyntaxError} {c c' : Cursor} :
    Stalls .program e c c' ↔ Program.reader c = .error e c' ∧ e.fault.InToken := by
  constructor
  · intro h
    exact ⟨h.fails, h.inToken⟩
  · rintro ⟨h, he⟩
    exact stalls_program he h

end Tickscript
