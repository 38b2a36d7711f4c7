import Tickscript.Pattern.Limits
import Tickscript.Proofs.DepthCounter
import Tickscript.Proofs.Representation

/-!
# How high a tree can get

Whatever walks down a tree after it was read (the printer, the comparison of two trees, the search
for the comment at the front) needs as much stack as the tree is high, so the limit on nesting has
to bound the height. It is not the bound itself. An operand is read on the budget that is left, and
only then do the operators behind it use up that same budget, one level for each fold. So a list on
the left of some operators is as high as the budget allows inside of it, and every one of the
operators puts one more node on top.

So if `h` is the greatest height on a budget of `b`, an operand on the budget `b + 1` reaches
`h + 1`, then `b` folds add one each, and the greatest height is `h + (b + 1)`. That makes
`1 + 2 + ... + b` on a budget of `b`, which is `Expr.heightLimit`. `Goal.Bounded` states what each
part of the reader adds to it, and `Derives.bounded` is the induction. The result is
`Expr.height_limited`.
-/

namespace Tickscript

/-! ## Heights -/

mutual

/-- The height of an expression: one for a leaf, and otherwise one more than the highest of its
parts. The parts of a call or a chain are the arguments. -/
def Expr.height : Expr → Nat
  | .list _ es => Expr.highest es + 1
  | .lambda _ body => body.height + 1
  | .unary _ _ e => e.height + 1
  | .binary _ _ l r _ => max l.height r.height + 1
  | .function (.mk _ _ _ args) => Expr.highest args + 1
  | .chain _ _ cs => Call.highest cs + 1
  | .number .. | .string .. | .duration .. | .regex .. | .bool .. | .star .. | .identifier ..
  | .reference .. => 1

/-- The height of the highest of some expressions, zero without any. -/
def Expr.highest : List Expr → Nat
  | [] => 0
  | e :: es => max e.height (Expr.highest es)

/-- The height of the highest argument of some calls. -/
def Call.highest : List Call → Nat
  | [] => 0
  | .mk _ _ _ args :: cs => max (Expr.highest args) (Call.highest cs)

end

attribute [simp] Expr.height Expr.highest Call.highest

namespace Expr

/-- Expressions are as high as the highest of them. -/
theorem highest_le {es : List Expr} {n : Nat} : highest es ≤ n ↔ ∀ e ∈ es, e.height ≤ n := by
  induction es with
  | nil => simp [highest]
  | cons e es ih => simp [highest, ih]

/-- Calls are as high as the highest of their arguments. -/
theorem highest_calls_le {cs : List Call} {n : Nat} :
    Call.highest cs ≤ n ↔ ∀ e ∈ cs.flatMap Call.args, e.height ≤ n := by
  induction cs with
  | nil => simp [Call.highest]
  | cons c cs ih =>
    obtain ⟨o, kind, name, args⟩ := c
    simp only [Call.highest, Nat.max_le, highest_le, ih, List.flatMap_cons, List.forall_mem_append,
      Call.args]

/-- The definition in one line: a node is one higher than the highest of its parts. -/
theorem height_le {e : Expr} {n : Nat} : e.height ≤ n + 1 ↔ ∀ x ∈ e.children, x.height ≤ n := by
  cases e with
  | list | lambda | unary => simp [height, children, highest_le]
  | binary => simp [height, children]
  | function call =>
    cases call
    simp [height, children, highest_le, Call.args]
  | chain => simp only [height, children, Nat.add_le_add_iff_right, highest_calls_le]
  | _ => simp [height, children]

/-- No expression has the height zero. -/
theorem height_pos (e : Expr) : 0 < e.height := by
  cases e with
  | function call =>
    cases call
    simp [height]
  | _ => simp [height]

/-- What is inside a tree is no higher than the tree. -/
theorem height_subterms (e : Expr) : ∀ x ∈ e.subterms, x.height ≤ e.height := by
  refine rel_subterms (R := fun x e => x.height ≤ e.height) (fun _ => Nat.le_refl _) Nat.le_trans
    (fun e x hx => ?_) e
  have hpos := e.height_pos
  have hparts := height_le.1 (show e.height ≤ e.height - 1 + 1 by omega) x hx
  omega

/-- A comment adds nothing to the height. -/
theorem height_withComment (c : Option Comment) (e : Expr) :
    (e.withComment c).height = e.height := by
  cases e with
  | function call =>
    cases call
    rfl
  | _ => rfl

theorem height_takeLeadingComment (e : Expr) : e.takeLeadingComment.2.height = e.height := by
  refine apply_takeLeadingComment height_withComment (fun o op l l' r p h => ?_) e
  rw [height, height, h]

/-- Parentheses add nothing to the height. -/
theorem height_inParens (c : Option Comment) (e : Expr) : (e.inParens c).height = e.height := by
  refine apply_inParens height_withComment (fun x => ?_) c e
  cases x <;> simp [parenthesize, height]

/-- A fold is one higher than the higher of its operands. -/
theorem height_fold (l : Expr) (t : Token) (op : BinaryOp) (r : Expr) :
    (l.fold t op r).height = max l.height r.height + 1 := by
  rw [fold, height, height_takeLeadingComment]

/-! ## What a budget allows -/

/-- The greatest height that a budget allows. -/
def heightLimit (budget : Nat) : Nat := budget * (budget + 1) / 2

/-- One more level of budget allows a tree that is higher by all the levels there are. -/
theorem heightLimit_succ (b : Nat) : heightLimit (b + 1) = heightLimit b + (b + 1) := by
  have hprod : (b + 1) * (b + 1 + 1) = b * (b + 1) + 2 * (b + 1) := by ring
  rw [heightLimit, hprod, Nat.add_mul_div_left _ _ (by omega), heightLimit]

end Expr

/-- The heights that a run for a goal can give. No operand is read without budget; a climb folds
one time less than it has budget, since the right operand of a fold needs some. -/
def Goal.Bounded : Goal → Prop
  | operand 0 _ => False
  | operand (b + 1) e => e.height ≤ Expr.heightLimit b + 1
  | climb 0 _ l e => e.height ≤ l.height
  | climb (b + 1) _ l e => e.height ≤ max l.height (Expr.heightLimit b) + b
  | expression b e => e.height ≤ Expr.heightLimit b
  | arguments b _ es => ∀ e ∈ es, e.height ≤ Expr.heightLimit b
  | elements b _ es => ∀ e ∈ es, e.height ≤ Expr.heightLimit b
  | calls b cs => ∀ e ∈ cs.flatMap Call.args, e.height ≤ Expr.heightLimit b

/-- An operand and the operators behind it: the folds come on top of what the operand is. -/
theorem Goal.Bounded.height_le {b min : Nat} {l e : Expr} (hl : (Goal.operand b l).Bounded)
    (he : (Goal.climb b min l e).Bounded) : e.height ≤ Expr.heightLimit b := by
  cases b with
  | zero => exact hl.elim
  | succ b =>
    simp only [Goal.Bounded] at hl he
    rw [Expr.heightLimit_succ]
    omega

section Trees

variable [Regex.Engine]

/-- What is read on a budget is no higher than the budget allows. -/
theorem Derives.bounded {g : Goal} {c c' : Cursor} (h : Derives g c c') : g.Bounded := by
  induction h with
  | @unary c c' b op e _ _ ih =>
    cases b with
    | zero => exact ih.elim
    | succ b =>
      simp only [Goal.Bounded, Expr.height, Expr.heightLimit_succ] at ih ⊢
      omega
  | number | duration | string | reference | regex | boolean | star | name =>
    simp [Goal.Bounded, Expr.height]
  | list _ _ ih => exact Expr.height_le.2 ih
  | lambda _ _ _ ih => exact Expr.height_le.2 (List.forall_mem_singleton.2 ih)
  | paren _ _ _ ih =>
    -- parentheses take up a level of the budget and leave no node
    simp only [Goal.Bounded, Expr.height_inParens] at ih ⊢
    omega
  | function _ _ _ ih => exact Expr.height_le.2 ih
  | chain _ _ ih => exact Expr.height_le.2 ih
  | @stop c b min l _ =>
    cases b with
    | zero => exact Nat.le_refl _
    | succ b =>
      simp only [Goal.Bounded]
      omega
  | @fold c c₁ c₂ c' b min op l r₀ r e _ _ _ _ _ ih₁ ih₂ ih₃ =>
    have hr := ih₁.height_le ih₂
    cases b with
    | zero => exact ih₁.elim
    | succ b =>
      -- the new node is one higher than the higher side, and one fold less is to come
      simp only [Goal.Bounded, Expr.height_fold] at ih₃ ⊢
      rw [Expr.heightLimit_succ] at hr ⊢
      omega
  | expression _ _ ih₁ ih₂ => exact ih₁.height_le ih₂
  | noArguments | noCalls => simp [Goal.Bounded]
  | arguments _ _ ih => exact ih
  | last _ _ _ ih => exact List.forall_mem_singleton.2 ih
  | more _ _ _ ih₁ ih₂ => exact List.forall_mem_cons.2 ⟨ih₁, ih₂⟩
  | call _ _ _ _ _ ih₁ ih₂ => exact List.forall_mem_append.2 ⟨ih₁, ih₂⟩

/-- An operand and the operators behind it, on any budget and from any precedence on. -/
theorem Expr.height_operation {b min : Nat} {c c' : Cursor} {e : Expr}
    (h : operation b min c = .ok e c') : e.height ≤ Expr.heightLimit b := by
  obtain ⟨l, c₁, hl, he⟩ := Reader.bind_eq_ok.1 h
  have hoperand := ((derives_operand_climb b).1 hl).bounded
  exact hoperand.height_le ((derives_operand_climb b).2 he).bounded

/-! ## Programs -/

/-- No expression of a statement is higher than the limit. -/
theorem DerivesStatement.height_le {s : Statement} {c c' : Cursor} (h : DerivesStatement s c c') :
    ∀ e ∈ s.exprs, e.height ≤ Expr.heightLimit maxNesting := by
  have htree : ∀ {x : Expr} {d d' : Cursor}, Derives (.expression maxNesting x) d d' →
      ∀ e ∈ x.subterms, e.height ≤ Expr.heightLimit maxNesting := by
    intro x d d' hx e he
    exact Nat.le_trans (x.height_subterms e he) hx.bounded
  cases h with
  | expr _ he => exact htree he
  | value _ _ _ he => exact htree he
  | template => simp [Statement.exprs]

/-- No expression of any statement is higher than the limit. -/
theorem DerivesStatements.height_le {ss : List Statement} {c c' : Cursor}
    (h : DerivesStatements ss c c') :
    ∀ e ∈ ss.flatMap Statement.exprs, e.height ≤ Expr.heightLimit maxNesting := by
  induction h with
  | nil => simp
  | cons _ hs _ ih => exact List.forall_mem_append.2 ⟨hs.height_le, ih⟩

/-- The limit on nesting bounds the height of every tree in a program that is read. More precisely,
what is read from depth `d` on is at most `1 + 2 + ... + (maxNesting - d)` high, whether the depth
is what is gone from a budget or what a parser has on its counter. -/
theorem Expr.height_limited :
    maxNesting * (maxNesting + 1) / 2 = 8256 ∧
    (∀ source p, Program.parse source = .ok p →
      ∀ e ∈ p.exprs, e.height ≤ maxNesting * (maxNesting + 1) / 2) ∧
    (∀ d < maxNesting, ∀ min c e c', operation (maxNesting - d) min c = .ok e c' →
      e.height ≤ (maxNesting - d) * (maxNesting + 1 - d) / 2) ∧
    ∀ frames (s s' : Parser) min e, maxNesting < frames → s.peak ≤ maxNesting →
      s.depth < maxNesting → Counted.operation frames min s = some (.ok e, s') →
      e.height ≤ (maxNesting - s.depth) * (maxNesting + 1 - s.depth) / 2 := by
  have hread : ∀ d < maxNesting, ∀ min c e c', operation (maxNesting - d) min c = .ok e c' →
      e.height ≤ (maxNesting - d) * (maxNesting + 1 - d) / 2 := by
    intro d hd min c e c' h
    have hle := height_operation h
    rwa [heightLimit, show maxNesting - d + 1 = maxNesting + 1 - d by omega] at hle
  refine ⟨rfl, fun source p h => ?_, hread, ?_⟩
  · obtain ⟨c₁, c₂, -, hss, -⟩ := derives_program h
    exact hss.height_le
  · rintro frames ⟨c, d, peak⟩ s' min e hframes hpeak hd h
    obtain ⟨d', -, peak', -, hrun⟩ := Counted.follows_operation hframes hd.le min c peak hpeak
    rw [hrun] at h
    cases hr : operation (maxNesting - d) min c with
    | ok x c' =>
      rw [hr] at h
      cases h
      exact hread d hd min c e c' hr
    | error x c' =>
      rw [hr] at h
      cases h

end Trees

section Sample

attribute [local instance] Pattern.engine

/-- Lists that have operators behind them, inside of one another, reach what is allowed from depth
125 on. -/
theorem Expr.height_limited_lists :
    let source := "[[a] + a] + a + a"
    (∃ p, Program.parse source = .ok p ∧ (∃ e ∈ p.exprs, e.height = 6) ∧
      ∀ e ∈ p.exprs, e.height ≤ 8256) ∧
    (∃ e c', operation (maxNesting - 125) 1 (.ofList (tokenize source)) = .ok e c' ∧
      e.height = 6 ∧ e.height ≤ 3 * 4 / 2) ∧
    ∃ e s', Counted.operation 129 1 ⟨.ofList (tokenize source), 125, 125⟩ = some (.ok e, s') ∧
      e.height = 6 ∧ e.height ≤ 3 * 4 / 2 := by
  intro source
  obtain ⟨-, hprogram, hread, hcounted⟩ := height_limited
  refine ⟨?_, ?_, ?_⟩
  · have h : ((Program.parse source).toOption.any fun p =>
        decide (∃ e ∈ p.exprs, e.height = 6)) = true := by decide +kernel
    cases hp : Program.parse source with
    | ok p =>
      rw [hp] at h
      exact ⟨p, rfl, of_decide_eq_true h, hprogram source p hp⟩
    | error _ =>
      rw [hp] at h
      cases h
  · have h : (((operation (maxNesting - 125) 1).run' (.ofList (tokenize source))).any fun e =>
        decide (e.height = 6)) = true := by decide +kernel
    delta EStateM.run' EStateM.run at h
    cases hrun : operation (maxNesting - 125) 1 (.ofList (tokenize source)) with
    | ok e c' =>
      rw [hrun] at h
      exact ⟨e, c', rfl, of_decide_eq_true h, hread 125 (by decide) 1 _ e c' hrun⟩
    | error _ _ =>
      rw [hrun] at h
      cases h
  · have h : ((Counted.operation 129 1 ⟨.ofList (tokenize source), 125, 125⟩).any fun r =>
        r.1.toOption.any fun e => decide (e.height = 6)) = true := by decide +kernel
    rcases hrun : Counted.operation 129 1 ⟨.ofList (tokenize source), 125, 125⟩ with
      _ | ⟨_ | e, s'⟩
    · rw [hrun] at h
      cases h
    · rw [hrun] at h
      cases h
    · rw [hrun] at h
      refine ⟨e, s', rfl, of_decide_eq_true h, ?_⟩
      exact hcounted 129 _ s' 1 e (by decide) (by decide) (by decide) hrun

end Sample

end Tickscript
