import Tickscript.Proofs.Derivation

/-!
# Derivations are runs

The converse of what derivations were made for: whatever is derived is what the reader does
(`Derives.runs`). The rounds of a loop play no part in it, as long as there are as many of them as
tokens ahead.
-/

namespace Tickscript

namespace Expr

variable {b : Nat} {c c' : Cursor}

/-- Arguments that are closed at once are none. -/
theorem arguments_close {close : Kind} (hk : c.current.kind = close) (element : Reader Expr) :
    arguments element close c = .ok [] c.advance := by
  rw [arguments, Reader.liftM_self, Reader.peek_bind, if_pos hk]
  rfl

/-- Any other arguments are elements up to the closing mark. -/
theorem arguments_elements {close : Kind} (hk : c.current.kind ≠ close) (element : Reader Expr) :
    arguments element close c = elements element close c.size c := by
  rw [arguments, Reader.liftM_self, Reader.peek_bind, if_neg hk]
  rfl

theorem callArguments_arguments (hp : c.current.kind = .lParen) (element : Reader Expr) :
    callArguments element c = arguments element .rParen c.advance :=
  Reader.expect_bind hp _

/-- What its calls are decides what a source is read as. -/
theorem chainFrom_calls {element : Reader Expr} {t : Token} {keyword : Bool} {cs : List Call}
    (h : calls element c.size c = .ok cs c') :
    chainFrom element t keyword c =
      .ok (if cs.isEmpty && !keyword then .identifier (.ofToken t) t.text
        else .chain (.ofToken t) ⟨t.text, ⟨t.position, none⟩⟩ cs) c' := by
  rw [chainFrom, Reader.liftM_self, Reader.rounds_bind, Reader.bind_ok h]
  split <;> rfl

end Expr

/-- The reader gives what the goal asks for. The loops do so with any number of rounds that is
enough for the tokens ahead. -/
def Goal.Runs [Regex.Engine] (c c' : Cursor) : Goal → Prop
  | operand b e => Expr.operand b c = .ok e c'
  | climb b min l e => Expr.climb b min l c = .ok e c'
  | expression b e => Expr.operation b 1 c = .ok e c'
  | arguments b close es => Expr.arguments (Expr.operation b 1) close c = .ok es c'
  | elements b close es => ∀ rounds, 0 < rounds → c.left ≤ rounds →
      Expr.elements (Expr.operation b 1) close rounds c = .ok es c'
  | calls b cs => ∀ rounds, c.left ≤ rounds → Expr.calls (Expr.operation b 1) rounds c = .ok cs c'

/-- A token that starts an operand is no unary operator. -/
theorem UnaryOp.ofKind?_of_startsPrimary {k : Kind} (h : Expr.startsPrimary k = true) :
    UnaryOp.ofKind? k = none := by
  revert h
  cases k <;> simp [Expr.startsPrimary, UnaryOp.ofKind?]

/-- There is always a token ahead, the end of input at least. -/
theorem Cursor.size_pos (c : Cursor) : 0 < c.size := Nat.succ_pos _

section

variable [Regex.Engine]

/-- What is derived is what the reader does. -/
theorem Derives.runs {g : Goal} {c c' : Cursor} (h : Derives g c c') : g.Runs c c' := by
  have hprimary : ∀ {c : Cursor} {b : Nat} {k : Kind}, c.current.kind = k →
      Expr.startsPrimary k = true → Expr.operand (b + 1) c = Expr.primary (Expr.operation b 1) c :=
    fun hk hstarts => Expr.operand_primary (UnaryOp.ofKind?_of_startsPrimary (hk ▸ hstarts))
  induction h with
  | unary hop _ ih =>
    show Expr.operand _ _ = _
    rw [Expr.operand_unary hop, Reader.bind_ok ih]
    rfl
  | number hk hv =>
    show Expr.operand _ _ = _
    rw [hprimary hk rfl, Expr.primary_number hk, hv]
    rfl
  | duration hk hv =>
    show Expr.operand _ _ = _
    rw [hprimary hk rfl, Expr.primary_duration hk, hv]
    rfl
  | string hk hv =>
    show Expr.operand _ _ = _
    rw [hprimary hk rfl, Expr.primary_string hk, hv]
    rfl
  | reference hk hv =>
    show Expr.operand _ _ = _
    rw [hprimary hk rfl, Expr.primary_reference hk, hv]
    rfl
  | regex hk hv =>
    show Expr.operand _ _ = _
    rw [hprimary hk rfl, Expr.primary_regex hk, hv]
    rfl
  | boolean hk =>
    show Expr.operand _ _ = _
    rw [hprimary hk rfl, Expr.primary_boolean hk]
  | star hk =>
    show Expr.operand _ _ = _
    rw [hprimary hk rfl, Expr.primary_star hk]
  | list hk _ ih =>
    show Expr.operand _ _ = _
    rw [hprimary hk rfl, Expr.primary_lBracket hk, Reader.bind_ok ih]
    rfl
  | lambda hk hc _ ih =>
    show Expr.operand _ _ = _
    rw [hprimary hk rfl, Expr.primary_lambda hk, Reader.expect_bind hc, Reader.bind_ok ih]
    rfl
  | paren hk _ hc ih =>
    show Expr.operand _ _ = _
    rw [hprimary hk rfl, Expr.primary_lParen hk, Reader.bind_ok ih, Reader.expect_bind hc]
    rfl
  | function hk hp _ ih =>
    show Expr.operand _ _ = _
    rw [hprimary hk rfl, Expr.primary_call hk hp, Reader.bind_ok ih]
    rfl
  | @name c b hk hp hm =>
    -- a name alone goes through the reader of chains too, which finds no call
    show Expr.operand _ _ = _
    have hcalls : Expr.calls (Expr.operation b 1) c.advance.size c.advance = .ok [] c.advance :=
      Expr.calls_none hm
    rw [hprimary hk rfl, Expr.primary_identifier hk hp, Expr.chainFrom_calls hcalls]
    rfl
  | @chain c c' b cs hk _ ih =>
    show Expr.operand _ _ = _
    have hcalls := ih _ (Cursor.left_le_size _)
    rcases hk with ⟨hk, hp, hne⟩ | hk
    · rw [hprimary hk rfl, Expr.primary_identifier hk hp, Expr.chainFrom_calls hcalls]
      obtain ⟨call, cs, rfl⟩ := List.exists_cons_of_ne_nil hne
      rfl
    · have hstarts : Expr.startsPrimary c.current.kind = true := by
        rcases hk with hk | hk <;> rw [hk] <;> rfl
      rw [hprimary rfl hstarts, Expr.primary_keyword hk, Expr.chainFrom_calls hcalls]
      simp
  | stop hop => exact Expr.climb_stop hop
  | fold hop hmin _ _ _ ih₁ ih₂ ih₃ =>
    show Expr.climb _ _ _ _ = _
    have hright : Expr.operation _ _ _ = _ := (Reader.bind_ok ih₁).trans ih₂
    rw [Expr.climb_fold hop hmin, Reader.bind_ok hright]
    exact ih₃
  | expression _ _ ih₁ ih₂ => exact (Reader.bind_ok ih₁).trans ih₂
  | noArguments _ hk => exact Expr.arguments_close hk (Expr.operation _ 1)
  | @arguments c _ b _ _ hk _ ih =>
    show Expr.arguments (Expr.operation b 1) _ _ = _
    rw [Expr.arguments_elements hk]
    exact ih _ c.size_pos c.left_le_size
  | @last c c' b close e hclose _ hc ih =>
    intro rounds hpos hle
    obtain ⟨rounds, rfl⟩ : ∃ r, rounds = r + 1 := ⟨rounds - 1, by omega⟩
    have hne : c'.current.kind ≠ .comma := by
      rcases hclose with rfl | rfl <;> simp [hc]
    rw [Expr.elements, Reader.bind_ok ih, Reader.liftM_self, Reader.peek_bind, if_neg hne,
      Reader.liftM_self, Reader.expect_bind hc]
    rfl
  | @more c c₁ c' b close e es he hk hes ih₁ ih₂ =>
    intro rounds hpos hle
    obtain ⟨rounds, rfl⟩ : ∃ r, rounds = r + 1 := ⟨rounds - 1, by omega⟩
    -- The element and the comma are two tokens, so there is a round left.
    have h₁ := he.left_le
    have h₂ := Cursor.left_advance_lt (c := c₁) (by simp [hk])
    simp only [Goal.least] at h₁
    rw [Expr.elements, Reader.bind_ok ih₁, Reader.liftM_self, Reader.peek_bind, if_pos hk,
      Reader.liftM_self, Reader.take_bind, Reader.bind_ok (ih₂ rounds (by omega) (by omega))]
    rfl
  | noCalls hm =>
    intro rounds hle
    cases rounds with
    | zero => rfl
    | succ rounds => exact Expr.calls_none hm
  | @call c c₁ c' b kind es cs hm hn hp hes hcs ih₁ ih₂ =>
    intro rounds hle
    have h₁ := Cursor.left_advance_lt (c := c) (by intro h; simp [h, CallKind.ofKind?] at hm)
    have h₂ := Cursor.left_advance_lt (c := c.advance) (by simp [hn])
    have h₃ := Cursor.left_advance_lt (c := c.advance.advance) (by simp [hp])
    have h₄ := hes.left_le
    simp only [Goal.least] at h₄
    obtain ⟨rounds, rfl⟩ : ∃ r, rounds = r + 1 := ⟨rounds - 1, by omega⟩
    have hargs := (Expr.callArguments_arguments hp _).trans ih₁
    rw [Expr.calls_some hm, Reader.expect_bind hn, Reader.bind_ok hargs,
      Reader.bind_ok (ih₂ rounds (by omega))]
    rfl

/-! ## Statements and programs -/

/-- The reader finds the expression of a derivation. -/
theorem Derives.reader {c c' : Cursor} {e : Expr} (h : Derives (.expression maxNesting e) c c') :
    Expr.reader c = .ok e c' :=
  h.runs

/-- And the statement of a derivation. -/
theorem DerivesStatement.runs {s : Statement} {c c' : Cursor} (h : DerivesStatement s c c') :
    Statement.reader c = .ok s c' := by
  rw [Statement.reader, Statement.readerOver, Reader.liftM_self, Reader.peek_bind]
  cases h with
  | expr hk he =>
    rw [if_neg hk, Reader.bind_ok he.reader]
    rfl
  | @value _ _ e hk hn ha he =>
    have hbinding : Statement.binding Expr.reader c.advance.advance = .ok (.value e) c' := by
      rw [Statement.binding, Reader.liftM_self, Reader.peek_bind, if_pos ha, Reader.liftM_self,
        Reader.take_bind, Reader.bind_ok he.reader]
      rfl
    rw [if_pos hk, Statement.declaration, Reader.liftM_self, Reader.take_bind, Reader.liftM_self,
      Reader.expect_bind hn, Reader.bind_ok hbinding]
    rfl
  | template hk hn ht =>
    have hne : c.advance.advance.current.kind ≠ .assign := by
      rcases (kind_of_typeName? ht).1 with h | h <;> simp [h]
    rw [if_pos hk, Statement.declaration, Reader.liftM_self, Reader.take_bind, Reader.liftM_self,
      Reader.expect_bind hn, Reader.bind_ok (binding_of_typeName? hne ht)]
    rfl

/-- And all statements up to the end of input, with rounds enough. -/
theorem DerivesStatements.runs {ss : List Statement} {c c' : Cursor}
    (h : DerivesStatements ss c c') {rounds : Nat} (hle : c.left ≤ rounds) :
    Statement.many Expr.reader rounds c = .ok ss c' := by
  induction h generalizing rounds with
  | nil hk =>
    cases rounds with
    | zero => rfl
    | succ rounds =>
      rw [Statement.many, Reader.liftM_self, Reader.peek_bind, if_pos hk]
      rfl
  | cons hk hs _ ih =>
    have hlt := hs.left_lt
    obtain ⟨rounds, rfl⟩ : ∃ r, rounds = r + 1 := ⟨rounds - 1, by omega⟩
    rw [Statement.many, Reader.liftM_self, Reader.peek_bind, if_neg hk, Reader.bind_ok hs.runs,
      Reader.bind_ok (ih (by omega))]
    rfl

end

namespace DbrpLine

variable {c : Cursor}

theorem name_eq (hk : c.current.kind = .reference ∨ c.current.kind = .string) :
    name c = Reader.literal c.current.position (nameIn c.current) c.advance := by
  rw [name, Reader.peek_bind]
  unfold nameIn
  rcases hk with hk | hk <;> rw [hk] <;> rfl

/-- The token of a name gives the name. -/
theorem name_of_nameIn {v : String} (hk : c.current.kind = .reference ∨ c.current.kind = .string)
    (hv : nameIn c.current = .ok v) : name c = .ok v c.advance := by
  rw [name_eq hk, hv]
  rfl

/-- A `dbrp` line is read off its four tokens. -/
theorem reader_of_nameIn {db rp : String}
    (hdb : c.advance.current.kind = .reference ∨ c.advance.current.kind = .string)
    (hdbv : nameIn c.advance.current = .ok db) (hdot : c.advance.advance.current.kind = .dot)
    (hrp : c.advance.advance.advance.current.kind = .reference ∨
      c.advance.advance.advance.current.kind = .string)
    (hrpv : nameIn c.advance.advance.advance.current = .ok rp) :
    reader c = .ok ⟨db, rp, .ofToken c.current⟩ c.advance.advance.advance.advance := by
  rw [reader, Reader.take_bind, Reader.bind_ok (name_of_nameIn hdb hdbv), Reader.expect_bind hdot,
    Reader.bind_ok (name_of_nameIn hrp hrpv)]
  rfl

end DbrpLine

/-- With rounds enough, the reader finds all `dbrp` lines of a derivation. -/
theorem DerivesDbrps.runs {ds : List DbrpLine} {c c' : Cursor} (h : DerivesDbrps ds c c')
    {rounds : Nat} (hle : c.left ≤ rounds) : DbrpLine.many rounds c = .ok ds c' := by
  induction h generalizing rounds with
  | nil hk =>
    cases rounds with
    | zero => rfl
    | succ rounds =>
      rw [DbrpLine.many, Reader.peek_bind, if_neg hk]
      rfl
  | @cons c c' db rp ds hk hdb hdbv hdot hrp hrpv _ ih =>
    have h₁ := Cursor.left_advance_lt (c := c) (by simp [hk])
    have h₂ := Cursor.left_advance_lt (c := c.advance) (by rcases hdb with h | h <;> simp [h])
    have h₃ := Cursor.left_advance_lt (c := c.advance.advance) (by simp [hdot])
    have h₄ := Cursor.left_advance_lt (c := c.advance.advance.advance)
      (by rcases hrp with h | h <;> simp [h])
    obtain ⟨rounds, rfl⟩ : ∃ r, rounds = r + 1 := ⟨rounds - 1, by omega⟩
    have hline := DbrpLine.reader_of_nameIn hdb hdbv hdot hrp hrpv
    rw [DbrpLine.many, Reader.peek_bind, if_pos hk, Reader.bind_ok hline,
      Reader.bind_ok (ih (by omega))]
    rfl

/-- `dbrp` lines and then statements up to the end of input are a program. -/
theorem Program.reader_of_derives [Regex.Engine] {ds : List DbrpLine} {ss : List Statement}
    {c c₁ c₂ : Cursor} (hds : DerivesDbrps ds c c₁) (hss : DerivesStatements ss c₁ c₂) :
    reader c = .ok ⟨ds, ss, c₂.current.comment⟩
      { c₂ with current := { c₂.current with comment := none } } := by
  rw [reader, readerOver, Reader.liftM_self, Reader.rounds_bind, Reader.liftM_self,
    Reader.bind_ok (hds.runs c.left_le_size), Reader.liftM_self, Reader.rounds_bind,
    Reader.bind_ok (hss.runs c₁.left_le_size)]
  rfl

end Tickscript
