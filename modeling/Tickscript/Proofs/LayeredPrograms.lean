import Tickscript.Pattern.Limits
import Tickscript.Proofs.Accounting
import Tickscript.Proofs.PrecedenceClimbing

/-!
# Programs of the layered grammar

What the reader of expressions owes to the layered grammar carries over to `dbrp` lines, statements
and programs. `Layered.ofTokens_eq` is the result for a whole list of tokens: unless nesting runs
out of budget, the reader of programs has the outcome of the layered one, a tree or an error.
-/

namespace Tickscript.Layered

/-- Both readers find the same name. -/
theorem agree_dbrpName (c : Cursor) :
    Agree id c.left (DbrpLine.name c) (dbrpName c) := by
  have hsame : dbrpName = DbrpLine.name := rfl
  rw [hsame]
  cases hv : DbrpLine.name c with
  | error e c₁ => exact .fail _ _
  | ok v c₁ =>
    obtain ⟨-, -, rfl⟩ := derives_dbrpName hv
    exact ⟨left_advance_le c, rfl⟩

/-- Both readers find the same `dbrp` lines. -/
theorem agree_dbrps (rounds : Nat) (c : Cursor) :
    Agree (List.map DbrpLine.bare) c.left (DbrpLine.many rounds c) (dbrps rounds c) := by
  induction rounds generalizing c with
  | zero => exact ⟨Nat.le_refl _, rfl⟩
  | succ rounds ih =>
    rw [DbrpLine.many, dbrps, Reader.peek_bind, Reader.peek_bind]
    split
    · next hk =>
      have hle := left_advance_le c
      rw [DbrpLine.reader, dbrp]
      refine Agree.bind (f := DbrpLine.bare) ?_ fun d c₁ _ hle => ?_
      · rw [Reader.expect_bind hk, Reader.take_bind]
        refine Agree.bind ((agree_dbrpName _).mono hle) fun db c₁ _ hle₁ => ?_
        refine Agree.expect fun _ => ?_
        have hle₂ := left_advance_le c₁
        refine Agree.bind ((agree_dbrpName _).mono (by omega)) fun rp c₂ _ hle₃ => ?_
        exact ⟨hle₃, rfl⟩
      · refine Agree.bind ((ih c₁).mono hle) fun ds c₂ _ hle => ?_
        exact ⟨hle, rfl⟩
    · exact ⟨Nat.le_refl _, rfl⟩

section Engine

variable [Regex.Engine]

/-- Both readers find the same expression, up to comments. -/
theorem agree_expression (c : Cursor) :
    Agree Expr.bare c.left (Expr.reader c) (expression c) := by
  have h := agree_operand_climb maxNesting
  show Agree Expr.bare c.left (Expr.reader c) (upFrom (unary c.left) 6 c)
  rw [upFrom_eq_bind]
  refine Agree.bind (h.1 (Nat.le_refl _)) fun l c₁ _ hle => ?_
  exact (h.2 (d := 6) hle (Nat.le_refl _)).mono hle

theorem agree_binding (c : Cursor) :
    Agree Binding.bare c.left (Statement.binding Expr.reader c) (binding c) := by
  have hle := left_advance_le c
  show Agree _ _ _ ((if c.current.kind = .assign then _ else _ : Reader Binding) c)
  by_cases ha : c.current.kind = .assign
  · rw [Statement.binding, Reader.liftM_self, Reader.peek_bind, if_pos ha, if_pos ha]
    refine Agree.bind (c := c.advance) ((agree_expression _).mono hle) fun e c₁ _ hle => ?_
    exact ⟨hle, rfl⟩
  · rw [if_neg ha]
    by_cases hw : c.current.kind = .identifier ∨ c.current.kind = .lambda
    · have htype : Statement.typeName? c.current = VarType.ofName? c.current.text := by
        rcases hw with h | h <;> simp [Statement.typeName?, h]
      rw [if_pos hw]
      cases hname : VarType.ofName? c.current.text with
      | some type =>
        rw [binding_of_typeName? ha (htype.trans hname)]
        exact ⟨hle, rfl⟩
      | none =>
        rw [binding_of_no_typeName? ha (htype.trans hname)]
        exact .fail _ _
    · have htype : Statement.typeName? c.current = none := by
        unfold Statement.typeName?
        split <;> simp_all
      rw [if_neg hw, binding_of_no_typeName? ha htype]
      exact .fail _ _

/-- Both readers find the same statement, up to comments. -/
theorem agree_statement (c : Cursor) :
    Agree Statement.bare c.left (Statement.reader c) (statement c) := by
  rw [Statement.reader, Statement.readerOver, Reader.liftM_self, statement, Reader.peek_bind,
    Reader.peek_bind]
  split
  · have hle := left_advance_le c
    have hle₁ := left_advance_le c.advance
    refine Agree.expect (c := c.advance) fun _ => ?_
    refine Agree.bind ((agree_binding _).mono (by omega)) fun b c₁ _ hle => ?_
    exact ⟨hle, rfl⟩
  · refine Agree.bind (agree_expression c) fun e c₁ _ hle => ?_
    exact ⟨hle, rfl⟩

/-- Both readers find the same statements, up to the end of input. -/
theorem agree_statements (rounds : Nat) (c : Cursor) :
    Agree (List.map Statement.bare) c.left (Statement.many Expr.reader rounds c)
      (statements rounds c) := by
  induction rounds generalizing c with
  | zero => exact ⟨Nat.le_refl _, rfl⟩
  | succ rounds ih =>
    rw [Statement.many, Reader.liftM_self, statements, Reader.peek_bind, Reader.peek_bind]
    split
    · exact ⟨Nat.le_refl _, rfl⟩
    · refine Agree.bind (agree_statement c) fun s c₁ _ hle => ?_
      refine Agree.bind ((ih c₁).mono hle) fun ss c₂ _ hle => ?_
      exact ⟨hle, rfl⟩

/-- Up to the comment behind the last statement, which the layered reader leaves where it is. -/
theorem agree_program (c : Cursor) :
    match Program.reader c with
    | .ok p _ => ∃ c', program c = .ok p.bare c'
    | .error e c' => e.fault = .tooDeep maxNesting ∨ program c = .error e c' := by
  simp only [Program.reader, Program.readerOver, Reader.liftM_self]
  rw [program, Reader.rounds_bind, Reader.rounds_bind]
  have hds := agree_dbrps c.size c
  cases hd : DbrpLine.many c.size c with
  | error e c₁ =>
    rw [hd] at hds
    rw [Reader.bind_error hd]
    exact hds.imp_right Reader.bind_error
  | ok ds c₁ =>
    rw [hd] at hds
    rw [Reader.bind_ok hd, Reader.bind_ok hds.2, Reader.rounds_bind, Reader.rounds_bind]
    have hss := agree_statements c₁.size c₁
    cases hs : Statement.many Expr.reader c₁.size c₁ with
    | error e c₂ =>
      rw [hs] at hss
      rw [Reader.bind_error hs]
      exact hss.imp_right Reader.bind_error
    | ok ss c₂ =>
      rw [hs] at hss
      rw [Reader.bind_ok hs]
      exact ⟨c₂, Reader.bind_ok hss.2⟩

/-- Unless expressions nest too deeply, the reader of programs has the outcome of the layered
grammar: the same tree up to comments, or the same error at the same place. A program that is read
has used up every token before the end of input, and none of them was malformed. -/
theorem ofTokens_eq (ts : List Token)
    (hdeep : ∀ e, Program.ofTokens ts = .error e → e.fault ≠ .tooDeep maxNesting) :
    (Program.ofTokens ts).map Program.bare = ofTokens ts ∧
      ∀ p, Program.ofTokens ts = .ok p →
        ∃ c, Program.reader (.ofList ts) = .ok p c ∧ c.current.kind = .eof ∧
          c.rest = (ts.dropWhile (·.kind ≠ .eof)).tail ∧
          ∀ t ∈ ts.takeWhile (·.kind ≠ .eof), t.kind ≠ .error := by
  have hagree := agree_program (.ofList ts)
  constructor
  · unfold Program.ofTokens at hdeep ⊢
    unfold ofTokens
    cases hr : Program.reader (.ofList ts) with
    | ok p c =>
      rw [hr] at hagree
      obtain ⟨c', hc'⟩ := hagree
      rw [hc']
      rfl
    | error e c =>
      rw [hr] at hagree hdeep
      rcases hagree with htoo | hsame
      · exact absurd htoo (hdeep e rfl)
      · rw [hsame]
        rfl
  · intro p hp
    obtain ⟨us, c, htook, heof, hus, hrun⟩ := account_program hp
    obtain ⟨hbefore, hafter⟩ := htook.eq_takeWhile heof
    refine ⟨_, hrun, heof, ?_, ?_⟩
    · cases ts with
      | nil => simpa [Cursor.ofList, Token.endAt] using hafter
      | cons t ts => exact hafter
    · intro t ht hk
      have hmem : t ∈ us := by
        rw [hbefore]
        cases ts with
        | nil => simp at ht
        | cons u ts => exact ht
      have hproper := p.kinds_proper .error (hus ▸ error_mem_traces hmem hk)
      simp [Kind.isProper] at hproper

end Engine

section Sample

attribute [local instance] Pattern.engine

/-- The theorem at a script with every level of operators, which both readers accept. -/
theorem ofTokens_eq_levels :
    let ts := tokenize "var x = a OR -b * (c + 1) <= d AND e == f(lambda: \"v\" % 2)"
    (Program.ofTokens ts).isOk = true ∧
      (Program.ofTokens ts).map Program.bare = ofTokens ts := by
  have hok : (Program.ofTokens
      (tokenize "var x = a OR -b * (c + 1) <= d AND e == f(lambda: \"v\" % 2)")).isOk = true := by
    decide +kernel
  refine ⟨hok, (ofTokens_eq _ fun e he => ?_).1⟩
  rw [he] at hok
  cases hok

end Sample

end Tickscript.Layered
