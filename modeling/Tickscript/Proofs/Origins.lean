import Mathlib.Tactic
import Tickscript.Program.Printer

/-!
# Trees up to origins

Comparing and writing trees looks at little of their origins: `sameAs` at nothing, and the printer
only at the comments of statements and of the calls in a chain. `Expr.mapOrigins` changes origins
throughout a tree. `Expr.core` forgets all of them, and two trees are the same exactly if their
cores are equal; `Expr.shape` keeps the comments of the calls in chains, and two trees with one
shape are written alike.
-/

namespace Tickscript

mutual

/-- The expression with other origins: those of nodes changed by `f`, those of the calls in a chain
by `g`. -/
def Expr.mapOrigins (f g : Origin → Origin) : Expr → Expr
  | .number o v => .number (f o) v
  | .string o v verbatim => .string (f o) v verbatim
  | .duration o m => .duration (f o) m
  | .regex o p => .regex (f o) p
  | .bool o v => .bool (f o) v
  | .star o => .star (f o)
  | .list o es => .list (f o) (Expr.mapOriginsList f g es)
  | .identifier o n => .identifier (f o) n
  | .reference o n => .reference (f o) n
  | .lambda o b => .lambda (f o) (b.mapOrigins f g)
  | .unary o op e => .unary (f o) op (e.mapOrigins f g)
  | .binary o op l r p => .binary (f o) op (l.mapOrigins f g) (r.mapOrigins f g) p
  | .function c => .function (c.mapOrigins f g f)
  | .chain o s cs => .chain (f o) ⟨s.name, f s.origin⟩ (Call.mapOriginsList f g cs)

/-- The call with other origins, its own changed by `own`. -/
def Call.mapOrigins (f g own : Origin → Origin) : Call → Call
  | .mk o k n as => .mk (own o) k n (Expr.mapOriginsList f g as)

/-- The expressions with other origins. -/
def Expr.mapOriginsList (f g : Origin → Origin) : List Expr → List Expr
  | [] => []
  | e :: es => e.mapOrigins f g :: Expr.mapOriginsList f g es

/-- The calls of a chain with other origins. -/
def Call.mapOriginsList (f g : Origin → Origin) : List Call → List Call
  | [] => []
  | c :: cs => c.mapOrigins f g g :: Call.mapOriginsList f g cs

end

attribute [simp] Expr.mapOrigins Call.mapOrigins Expr.mapOriginsList Call.mapOriginsList

namespace Origin

/-- Nothing of an origin. -/
def forget (_ : Origin) : Origin := default

/-- Only the comment of an origin. -/
def forgetPosition (o : Origin) : Origin := ⟨.start, o.comment⟩

end Origin

/-- The expression without any origin. -/
def Expr.core : Expr → Expr := mapOrigins .forget .forget

/-- The expression with no more of its origins than the printer looks at. -/
def Expr.shape : Expr → Expr := mapOrigins .forget .forgetPosition

/-! ## Composition -/

section

variable (f g f' g' : Origin → Origin)

mutual

/-- Changing origins twice is changing them once by both changes. -/
theorem Expr.mapOrigins_mapOrigins (e : Expr) :
    (e.mapOrigins f g).mapOrigins f' g' = e.mapOrigins (f' ∘ f) (g' ∘ g) := by
  match e with
  | .number .. | .string .. | .duration .. | .regex .. | .bool .. | .star .. | .identifier ..
  | .reference .. => rfl
  | .list _ es => simp [Expr.mapOrigins, Expr.mapOriginsList_mapOriginsList es]
  | .lambda _ b => simp [Expr.mapOrigins, b.mapOrigins_mapOrigins]
  | .unary _ _ x => simp [Expr.mapOrigins, x.mapOrigins_mapOrigins]
  | .binary _ _ l r _ => simp [Expr.mapOrigins, l.mapOrigins_mapOrigins, r.mapOrigins_mapOrigins]
  | .function c => simp [Expr.mapOrigins, c.mapOrigins_mapOrigins f f']
  | .chain _ _ cs => simp [Expr.mapOrigins, Call.mapOriginsList_mapOriginsList cs]

theorem Call.mapOrigins_mapOrigins (own own' : Origin → Origin) (c : Call) :
    (c.mapOrigins f g own).mapOrigins f' g' own' =
      c.mapOrigins (f' ∘ f) (g' ∘ g) (own' ∘ own) := by
  match c with
  | .mk _ _ _ as => simp [Call.mapOrigins, Expr.mapOriginsList_mapOriginsList as]

theorem Expr.mapOriginsList_mapOriginsList (es : List Expr) :
    Expr.mapOriginsList f' g' (Expr.mapOriginsList f g es) =
      Expr.mapOriginsList (f' ∘ f) (g' ∘ g) es := by
  match es with
  | [] => rfl
  | e :: es =>
    simp [Expr.mapOriginsList, e.mapOrigins_mapOrigins, Expr.mapOriginsList_mapOriginsList es]

theorem Call.mapOriginsList_mapOriginsList (cs : List Call) :
    Call.mapOriginsList f' g' (Call.mapOriginsList f g cs) =
      Call.mapOriginsList (f' ∘ f) (g' ∘ g) cs := by
  match cs with
  | [] => rfl
  | c :: cs =>
    simp [Call.mapOriginsList, c.mapOrigins_mapOrigins g g',
      Call.mapOriginsList_mapOriginsList cs]

end

end

/-- The core of an expression does not depend on the comments that its shape keeps. -/
theorem Expr.core_shape (e : Expr) : e.shape.core = e.core :=
  e.mapOrigins_mapOrigins ..

/-! ## Comparing -/

mutual

/-- Two expressions are the same if nothing but their origins differs. -/
theorem Expr.sameAs_iff (a b : Expr) : a.sameAs b = true ↔ a.core = b.core := by
  unfold Expr.core
  match a with
  | .number .. | .string .. | .duration .. | .regex .. | .bool .. | .star .. | .identifier ..
  | .reference .. => cases b <;> simp [Expr.sameAs, Expr.mapOrigins, Origin.forget]
  | .list _ as =>
    have ih := Expr.sameList_iff as
    cases b <;> simp [Expr.sameAs, Expr.mapOrigins, Origin.forget, ih]
  | .lambda _ x =>
    have ih := fun y => x.sameAs_iff y
    unfold Expr.core at ih
    cases b <;> simp [Expr.sameAs, Expr.mapOrigins, Origin.forget, ih]
  | .unary _ _ x =>
    have ih := fun y => x.sameAs_iff y
    unfold Expr.core at ih
    cases b <;> simp [Expr.sameAs, Expr.mapOrigins, Origin.forget, ih]
  | .binary _ _ l r _ =>
    have ihl := fun y => l.sameAs_iff y
    have ihr := fun y => r.sameAs_iff y
    unfold Expr.core at ihl ihr
    cases b <;> simp [Expr.sameAs, Expr.mapOrigins, Origin.forget, ihl, ihr, and_assoc]
  | .function c =>
    have ih := fun d => c.sameAs_iff d
    cases b <;> simp [Expr.sameAs, Expr.mapOrigins, ih]
  | .chain _ _ cs =>
    have ih := Call.sameList_iff cs
    cases b <;> simp [Expr.sameAs, Expr.mapOrigins, Origin.forget, ih]

/-- Calls are the same exactly if they are equal without their origins. -/
theorem Call.sameAs_iff (a b : Call) : a.sameAs b = true ↔
    a.mapOrigins .forget .forget .forget = b.mapOrigins .forget .forget .forget := by
  match a with
  | .mk _ _ _ as =>
    have ih := Expr.sameList_iff as
    cases b
    simp [Call.sameAs, Call.mapOrigins, Origin.forget, ih, and_assoc]

theorem Expr.sameList_iff (as bs : List Expr) : Expr.sameList as bs = true ↔
    Expr.mapOriginsList .forget .forget as = Expr.mapOriginsList .forget .forget bs := by
  match as with
  | [] => cases bs <;> simp [Expr.sameList, Expr.mapOriginsList]
  | a :: as =>
    have ih := fun b => a.sameAs_iff b
    have ihs := fun bs => Expr.sameList_iff as bs
    unfold Expr.core at ih
    cases bs <;> simp [Expr.sameList, Expr.mapOriginsList, ih, ihs]

theorem Call.sameList_iff (as bs : List Call) : Call.sameList as bs = true ↔
    Call.mapOriginsList .forget .forget as = Call.mapOriginsList .forget .forget bs := by
  match as with
  | [] => cases bs <;> simp [Call.sameList, Call.mapOriginsList]
  | a :: as =>
    have ih := fun b => a.sameAs_iff b
    have ihs := fun bs => Call.sameList_iff as bs
    cases bs <;> simp [Call.sameList, Call.mapOriginsList, ih, ihs]

end

/-! ## Writing -/

/-- Whether an operand needs parentheses does not depend on origins. -/
@[simp]
theorem Expr.needsParens_mapOrigins (f g : Origin → Origin) (fits : Nat → Bool) (e : Expr) :
    (e.mapOrigins f g).needsParens fits = e.needsParens fits := by
  cases e <;> rfl

section

variable (f : Origin → Origin) {g : Origin → Origin}

mutual

/-- The printer looks at no origins but at the comments of the calls in a chain. -/
theorem Expr.render_mapOrigins (hg : ∀ o, (g o).comment = o.comment) (width level : Nat)
    (e : Expr) : (e.mapOrigins f g).render width level = e.render width level := by
  match e with
  | .number .. | .string .. | .duration .. | .regex .. | .bool .. | .star .. | .identifier ..
  | .reference .. => rfl
  | .list _ es => simp [Expr.mapOrigins, Expr.render, Expr.renderList_mapOrigins hg width level es]
  | .lambda _ b => simp [Expr.mapOrigins, Expr.render, b.render_mapOrigins hg width level]
  | .unary _ _ x => simp [Expr.mapOrigins, Expr.render, x.render_mapOrigins hg width level]
  | .binary _ _ l r _ =>
    simp [Expr.mapOrigins, Expr.render, l.render_mapOrigins hg width level,
      r.render_mapOrigins hg width level]
  | .function c => simp [Expr.mapOrigins, Expr.render, c.render_mapOrigins hg f width level]
  | .chain _ _ cs =>
    simp [Expr.mapOrigins, Expr.render, Call.renderList_mapOrigins hg width level cs]

/-- The text of a call depends on the comments of the calls in it and on no position. -/
theorem Call.render_mapOrigins (hg : ∀ o, (g o).comment = o.comment) (own : Origin → Origin)
    (width level : Nat) (c : Call) :
    (c.mapOrigins f g own).render width level = c.render width level := by
  match c with
  | .mk _ _ _ as =>
    simp [Call.mapOrigins, Call.render, Expr.renderList_mapOrigins hg width level as]

theorem Expr.renderList_mapOrigins (hg : ∀ o, (g o).comment = o.comment) (width level : Nat)
    (es : List Expr) :
    Expr.renderList width level (Expr.mapOriginsList f g es) = Expr.renderList width level es := by
  match es with
  | [] => rfl
  | e :: es =>
    simp [Expr.mapOriginsList, Expr.renderList, e.render_mapOrigins hg width level,
      Expr.renderList_mapOrigins hg width level es]

theorem Call.renderList_mapOrigins (hg : ∀ o, (g o).comment = o.comment) (width level : Nat)
    (cs : List Call) :
    Call.renderList width level (Call.mapOriginsList f g cs) = Call.renderList width level cs := by
  match cs with
  | [] => rfl
  | c :: cs =>
    have hkind : (c.mapOrigins f g g).kind = c.kind := by cases c; rfl
    have horigin : (c.mapOrigins f g g).origin.comment = c.origin.comment := by
      cases c
      exact hg _
    simp [Call.mapOriginsList, Call.renderList, hkind, horigin,
      c.render_mapOrigins hg g width (c.kind.level level),
      Call.renderList_mapOrigins hg width level cs]

end

end

/-- Two expressions with one shape are written alike. -/
theorem Expr.render_eq_of_shape {a b : Expr} (h : a.shape = b.shape) (width level : Nat) :
    a.render width level = b.render width level := by
  have hshape : ∀ e : Expr, e.shape.render width level = e.render width level :=
    fun e => e.render_mapOrigins _ (g := Origin.forgetPosition) (fun _ => rfl) width level
  rw [← hshape a, h, hshape b]

end Tickscript
