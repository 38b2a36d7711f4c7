import Tickscript.Proofs.Relexing

/-!
# Reading what was written

The pieces of an expression are read as the expression again. What comes back is `Expr.reread`: the
same tree with the parentheses marked that were written, and with comments as they are read. How
many levels of budget that takes is `Expr.need`; with less the reader stops because nesting is too
deep, and with enough it goes on behind the pieces (`Reader.Outcome`).

An expression is read in two ways. As an operand it is read by itself; as the start of an operation
the climb takes its outermost operators one by one, so the run for it goes on as a climb from the
tree with `Expr.folds` levels less (`ReadsOperation`). How the pieces of a tree are put together
decides how these facts are: `ReadsOperand.operation`, `ReadsOperation.paren` and
`ReadsOperation.binary` are the three ways, and `Expr.reads` goes through the tree.

What follows an expression may belong to it as well, such as an operator after a lambda or a
parenthesis after a name. `Expr.endsBefore` says when it does not.
-/

namespace Tickscript

/-! ## What comes back -/

namespace Comment

/-- A comment as it is read after it was written. -/
def reread (comment : Option Comment) : Option Comment := Trivia.commentOf (gap 0 0 comment)

end Comment

/-- The expression with its parentheses marked, if there are any. -/
def Expr.marked (parens : Bool) (e : Expr) : Expr := if parens then e.parenthesize else e

mutual

/-- The expression as it is read after it was written, without origins that are not written. -/
def Expr.reread : Expr → Expr
  | .number _ v => .number default v
  | .string _ v verbatim => .string default v verbatim
  | .duration _ micros => .duration default micros
  | .regex _ pattern => .regex default pattern
  | .bool _ v => .bool default v
  | .star _ => .star default
  | .list _ es => .list default (Expr.rereadList es)
  | .identifier _ name => .identifier default name
  | .reference _ name => .reference default name
  | .lambda _ body => .lambda default body.reread
  | .unary _ op e => .unary default op (e.reread.marked (e.needsParens fun _ => false))
  | .binary _ op l r parenthesized =>
    .binary default op (l.reread.marked (l.needsParens fun p => op.precedence ≤ p))
      (r.reread.marked (r.needsParens fun p => op.precedence < p)) parenthesized
  | .function c => .function (c.reread none)
  | .chain _ s cs => .chain default ⟨s.name, default⟩ (Call.rereadList cs)

/-- The call as it is read after it was written, with its comment if there is one. -/
def Call.reread (comment : Option Comment) : Call → Call
  | .mk _ kind name args => .mk ⟨.start, comment⟩ kind name (Expr.rereadList args)

/-- The expressions as they are read after they were written. -/
def Expr.rereadList : List Expr → List Expr
  | [] => []
  | e :: es => e.reread :: Expr.rereadList es

/-- The calls of a chain as they are read after they were written. -/
def Call.rereadList : List Call → List Call
  | [] => []
  | c :: cs => c.reread (Comment.reread c.origin.comment) :: Call.rereadList cs

end

attribute [simp] Expr.reread Call.reread Expr.rereadList Call.rereadList

/-! ## What it takes -/

/-- One level more for parentheses. -/
def Expr.within (parens : Bool) (levels : Nat) : Nat := if parens then levels + 1 else levels

/-- The operators that a climb takes one by one, which are those outside parentheses. -/
def Expr.folds : Expr → Nat
  | .binary _ op l _ parenthesized =>
    if parenthesized then 0
    else (if l.needsParens fun p => op.precedence ≤ p then 0 else l.folds) + 1
  | _ => 0

mutual

/-- The levels of budget that reading the written expression takes. -/
def Expr.need : Expr → Nat
  | .list _ es => Expr.needList es + 1
  | .lambda _ body => body.need + 1
  | .unary _ _ e => Expr.within (e.needsParens fun _ => false) e.need + 1
  | .binary _ op l r parenthesized =>
    let left := l.needsParens fun p => op.precedence ≤ p
    Expr.within parenthesized (max (Expr.within left l.need)
      ((if left then 0 else l.folds) + 1 +
        Expr.within (r.needsParens fun p => op.precedence < p) r.need))
  | .function (.mk _ _ _ args) => Expr.needList args + 1
  | .chain _ _ cs => Call.needList cs + 1
  | _ => 1

/-- The levels that reading each of some expressions takes. -/
def Expr.needList : List Expr → Nat
  | [] => 0
  | e :: es => max e.need (Expr.needList es)

/-- The levels that reading the arguments of each of some calls takes. -/
def Call.needList : List Call → Nat
  | [] => 0
  | .mk _ _ _ args :: cs => max (Expr.needList args) (Call.needList cs)

end

attribute [simp] Expr.need Expr.needList Call.needList

/-- Whether the written expression is at its end before a token of kind `k`. -/
def Expr.endsBefore (k : Kind) : Expr → Bool
  | .identifier .. => k != .lParen && (CallKind.ofKind? k).isNone
  | .chain .. => (CallKind.ofKind? k).isNone
  | .lambda _ body => (BinaryOp.ofKind? k).isNone && body.endsBefore k
  | .unary _ _ e => (e.needsParens fun _ => false) || e.endsBefore k
  | .binary _ op _ r parenthesized =>
    parenthesized || ((BinaryOp.ofKind? k).all fun op' => op'.precedence ≤ op.precedence) &&
      ((r.needsParens fun p => op.precedence < p) || r.endsBefore k)
  | _ => true

/-- Whether a climb from the minimum `min` takes all operators of the written expression that are
not in parentheses. -/
def Expr.fitsMin (min : Nat) : Expr → Prop
  | .binary _ op _ _ parenthesized => parenthesized = false → min ≤ op.precedence
  | _ => True

/-! ## Comments in front -/

/-- The comment `k` is in front of the expression, and no other. -/
def Expr.LedBy (k : Option Comment) : Expr → Prop
  | .binary o _ l _ _ => o.comment = k ∧ l.takeLeadingComment.1 = none
  | e => e.comment = k

namespace Expr

/-- The comment in front is that of the expression itself. -/
theorem LedBy.comment_eq {k : Option Comment} {e : Expr} (h : e.LedBy k) : e.comment = k := by
  cases e with
  | binary o op l r p => exact h.1
  | _ => exact h

/-- Once its comment is taken off, an expression has none in front. -/
theorem takeLeadingComment_of_none {e : Expr} (h : e.takeLeadingComment.1 = none) :
    e.takeLeadingComment.2.takeLeadingComment.1 = none := by
  induction e using Expr.takeLeadingComment.induct with
  | case1 o op l r p c hc => simp [takeLeadingComment, hc] at h
  | case2 o op l r p hc _ _ _ ih =>
    simp only [takeLeadingComment, hc] at h ⊢
    exact ih h
  | case3 e hne =>
    cases e with
    | binary o op l r p => exact absurd rfl (hne o op l r p)
    | function call => cases call; rfl
    | _ => rfl

/-- What is taken off is the comment in front, and there is no other behind it. -/
theorem LedBy.takeLeadingComment {k : Option Comment} {e : Expr} (h : e.LedBy k) :
    e.takeLeadingComment.1 = k ∧ e.takeLeadingComment.2.takeLeadingComment.1 = none := by
  cases e with
  | binary o op l r p =>
    obtain ⟨ho, hl⟩ := h
    cases hk : o.comment with
    | none =>
      rw [hk] at ho
      subst ho
      simp only [Expr.takeLeadingComment, hk, hl, true_and]
      exact takeLeadingComment_of_none hl
    | some c =>
      rw [hk] at ho
      subst ho
      simp [Expr.takeLeadingComment, hk, hl]
  | function call =>
    cases call
    exact ⟨h, rfl⟩
  | _ => exact ⟨h, rfl⟩

/-- A fold puts the comment of the operator behind the one in front. -/
theorem LedBy.folded {k : Option Comment} {l : Expr} (h : l.LedBy k) (t : Token) (op : BinaryOp)
    (r : Expr) : (l.fold t op r).LedBy (foldedOrigin k t).comment := by
  obtain ⟨h₁, h₂⟩ := h.takeLeadingComment
  refine ⟨?_, h₂⟩
  rw [h₁]

/-- A fold at an operator without a comment leaves the comment in front where it is. -/
theorem LedBy.fold {k : Option Comment} {l : Expr} (h : l.LedBy k) {t : Token}
    (ht : t.comment = none) (op : BinaryOp) (r : Expr) : (l.fold t op r).LedBy k := by
  have hjoined : (foldedOrigin k t).comment = k := by
    cases k with
    | none => exact ht
    | some lines => simp [foldedOrigin, ht]
  exact hjoined ▸ h.folded t op r

/-- Parentheses put their comment in front of an expression that has none of its own. -/
theorem LedBy.inParens {own : Option Comment} {e : Expr} (h : e.LedBy own) (k : Option Comment) :
    (e.inParens k).LedBy (own.or k) := by
  have hc := h.comment_eq
  have hparen : ∀ {x : Expr} {c : Option Comment}, x.LedBy c → x.parenthesize.LedBy c := by
    intro x c hx
    cases x <;> exact hx
  have hwith : (e.withComment k).LedBy k := by
    cases e with
    | binary o op l r p => exact ⟨rfl, h.2⟩
    | function call => cases call; rfl
    | _ => rfl
  rw [Expr.inParens, hc]
  cases own with
  | none => exact hparen hwith
  | some lines => exact hparen h

/-! ## Shapes -/

/-- A shape does not have the comment of the expression. -/
theorem shape_withComment (c : Option Comment) (e : Expr) : (e.withComment c).shape = e.shape := by
  cases e with
  | function call => cases call; rfl
  | _ => rfl

/-- Taking a comment off leaves the shape as it is. -/
theorem shape_takeLeadingComment (e : Expr) : e.takeLeadingComment.2.shape = e.shape := by
  refine apply_takeLeadingComment shape_withComment (fun o op l l' r p h => ?_) e
  show binary (.forget o) op l'.shape r.shape p = binary (.forget o) op l.shape r.shape p
  rw [h]

/-- The shape of a fold is the operator between the shapes of its operands. -/
theorem shape_fold (l : Expr) (t : Token) (op : BinaryOp) (r : Expr) :
    (l.fold t op r).shape = .binary default op l.shape r.shape false := by
  have h := l.shape_takeLeadingComment
  simp only [shape] at h ⊢
  simp [fold, mapOrigins, Origin.forget, h]

theorem shape_parenthesize (e : Expr) : e.parenthesize.shape = e.shape.parenthesize := by
  cases e <;> rfl

/-- Parentheses mark the shape. -/
theorem shape_inParens (c : Option Comment) (e : Expr) :
    (e.inParens c).shape = e.shape.parenthesize := by
  rw [inParens, shape_parenthesize]
  split
  · rw [shape_withComment]
  · rfl

end Expr

/-- An expression that comes back for `e`, written behind the comment `k`. -/
def Expr.ComesBack (e : Expr) (k : Option Comment) (e' : Expr) : Prop :=
  e'.shape = e.reread ∧ e'.LedBy k

/-- An expression that comes back for `e` as an operand, in parentheses or not. -/
def Expr.ComesBackMarked (parens : Bool) (e : Expr) (k : Option Comment) (e' : Expr) : Prop :=
  e'.shape = e.reread.marked parens ∧ e'.LedBy k

/-! ## Outcomes of runs -/

/-- A run that needs some levels of budget: with enough of them it goes on from a value with the
property `P`, and otherwise it fails because nesting is too deep. -/
def Reader.Outcome {α β : Type} (need budget : Nat) (P : α → Prop)
    (goes : α → EStateM.Result SyntaxError Cursor β) (r : EStateM.Result SyntaxError Cursor β) :
    Prop :=
  need ≤ budget ∧ (∃ a, P a ∧ r = goes a) ∨
    budget < need ∧ ∃ e c, r = .error e c ∧ e.fault = .tooDeep maxNesting

namespace Reader.Outcome

variable {α β γ : Type} {n n' b : Nat} {P : α → Prop} {Q : β → Prop} {c c₁ : Cursor}

/-- With budget enough a run goes on from its value. -/
theorem fits {goes : α → EStateM.Result SyntaxError Cursor β} (hneed : n ≤ b) {a : α} (ha : P a) :
    Outcome n b P goes (goes a) :=
  .inl ⟨hneed, a, ha, rfl⟩

/-- What is known of the value may be weakened. -/
theorem mono {P' : α → Prop} {goes : α → EStateM.Result SyntaxError Cursor β}
    {r : EStateM.Result SyntaxError Cursor β} (h : Outcome n b P goes r) (hP : ∀ a, P a → P' a) :
    Outcome n b P' goes r :=
  h.imp_left fun ⟨hneed, a, ha, hr⟩ => ⟨hneed, a, hP a ha, hr⟩

/-- Without budget enough a run fails because nesting is too deep. -/
theorem tooDeep {goes : α → EStateM.Result SyntaxError Cursor β} (hneed : b < n) {e : SyntaxError}
    (he : e.fault = .tooDeep maxNesting) : Outcome n b P goes (.error e c) :=
  .inr ⟨hneed, e, c, rfl, he⟩

/-- One more level needed, and one more there. -/
theorem succ {goes : α → EStateM.Result SyntaxError Cursor β}
    {r : EStateM.Result SyntaxError Cursor β} (h : Outcome n b P goes r) :
    Outcome (n + 1) (b + 1) P goes r :=
  h.imp (fun ⟨hneed, h⟩ => ⟨by omega, h⟩) fun ⟨hneed, h⟩ => ⟨by omega, h⟩

/-- The value that a run gives goes on. -/
theorem bind {m : Reader α} {k : α → Reader β} {goes : γ → EStateM.Result SyntaxError Cursor β}
    {R : γ → Prop} (hm : Outcome n b P (fun a => .ok a c₁) (m c))
    (hk : ∀ a, P a → Outcome n' b R goes (k a c₁)) :
    Outcome (max n n') b R goes ((m >>= k) c) := by
  rcases hm with ⟨hneed, a, ha, hr⟩ | ⟨hneed, e, c₂, hr, he⟩
  · rw [Reader.bind_ok hr]
    rcases hk a ha with ⟨hneed', x, hx, hr'⟩ | ⟨hneed', e, c₂, hr', he⟩
    · exact .inl ⟨by omega, x, hx, hr'⟩
    · exact .inr ⟨by omega, e, c₂, hr', he⟩
  · rw [Reader.bind_error hr]
    exact .tooDeep (by omega) he

/-- A run that ends in a value, changed. -/
theorem map {m : Reader α} {f : α → β} (hm : Outcome n b P (fun a => .ok a c₁) (m c))
    (hf : ∀ a, P a → Q (f a)) :
    Outcome n b Q (fun a => .ok a c₁) ((do return f (← m) : Reader β) c) := by
  have hf : ∀ a, P a → Outcome 0 b Q (fun a => .ok a c₁) ((pure (f a) : Reader β) c₁) :=
    fun a ha => .fits (Nat.zero_le _) (hf a ha)
  have h := hm.bind hf
  rwa [Nat.max_zero] at h

end Reader.Outcome

open Reader (Outcome)

/-! ## Where an expression ends -/

namespace Expr

/-- A place that lets more operators stand asks for no more parentheses. -/
theorem needsParens_mono {fits fits' : Nat → Bool} (h : ∀ p, fits p = true → fits' p = true)
    {e : Expr} (he : e.needsParens fits = false) : e.needsParens fits' = false := by
  cases e with
  | binary o op l r p =>
    simp only [needsParens, Bool.and_eq_false_iff, Bool.not_eq_false'] at he ⊢
    exact he.imp_right (h op.precedence)
  | lambda => simp [needsParens] at he
  | _ => rfl

/-- Before a token that closes or separates, every expression is at its end. -/
theorem endsBefore_of_close {k : Kind} (hop : BinaryOp.ofKind? k = none) (hparen : k ≠ .lParen)
    (hcall : CallKind.ofKind? k = none) (e : Expr) : e.endsBefore k = true := by
  match e with
  | .number .. | .string .. | .duration .. | .regex .. | .bool .. | .star .. | .list ..
  | .reference .. | .function .. => rfl
  | .identifier .. => simp [endsBefore, hparen, hcall]
  | .chain .. => simp [endsBefore, hcall]
  | .lambda _ body => simp [endsBefore, hop, endsBefore_of_close hop hparen hcall body]
  | .unary _ _ x => simp [endsBefore, endsBefore_of_close hop hparen hcall x]
  | .binary _ _ _ r _ => simp [endsBefore, hop, endsBefore_of_close hop hparen hcall r]

/-- Before an operator, every expression is at its end that needs no parentheses to its left. -/
theorem endsBefore_kind (op : BinaryOp) {e : Expr}
    (h : (e.needsParens fun p => op.precedence ≤ p) = false) : e.endsBefore op.kind = true := by
  have hparen : op.kind ≠ .lParen := by cases op <;> simp [BinaryOp.kind]
  have hcall : CallKind.ofKind? op.kind = none := by cases op <;> rfl
  match e with
  | .number .. | .string .. | .duration .. | .regex .. | .bool .. | .star .. | .list ..
  | .reference .. | .function .. => rfl
  | .identifier .. => simp [endsBefore, hparen, hcall]
  | .chain .. => simp [endsBefore, hcall]
  | .lambda .. => simp [needsParens] at h
  | .unary _ _ x =>
    rw [endsBefore, Bool.or_eq_true]
    by_cases hx : (x.needsParens fun _ => false) = true
    · exact .inl hx
    · exact .inr (endsBefore_kind op (@needsParens_mono (fun _ => false) _ (by simp) x
        (by simpa using hx)))
  | .binary _ op' l r p =>
    simp only [needsParens, Bool.and_eq_false_iff, Bool.not_eq_false', decide_eq_true_eq] at h
    rw [endsBefore, Bool.or_eq_true]
    refine h.imp_right fun hle => ?_
    rw [BinaryOp.ofKind?_kind, Bool.and_eq_true, Bool.or_eq_true]
    refine ⟨by simpa using hle, ?_⟩
    by_cases hr : (r.needsParens fun p => op'.precedence < p) = true
    · exact .inl hr
    · refine .inr (endsBefore_kind op (needsParens_mono ?_ (by simpa using hr)))
      intro p hp
      simp only [decide_eq_true_eq] at hp ⊢
      omega

/-- Every expression fits the place of a whole expression. -/
theorem fitsMin_one (e : Expr) : e.fitsMin 1 := by
  cases e with
  | binary _ op => cases op <;> simp [fitsMin, BinaryOp.precedence]
  | _ => trivial

/-- An operand that needs no parentheses fits its place. -/
theorem fitsMin_of_needsParens {fits : Nat → Bool} {min : Nat}
    (hfits : ∀ p, fits p = true → min ≤ p) {e : Expr} (h : e.needsParens fits = false) :
    e.fitsMin min := by
  cases e with
  | binary _ op l r p =>
    intro hp
    subst hp
    exact hfits _ (by simpa [needsParens] using h)
  | _ => trivial

/-- There are at least as many pieces as commas between the arguments. -/
theorem length_le_piecesList (width level : Nat) (g : List Trivia) (es : List Expr) :
    es.length ≤ (piecesList width level g es).length + 1 := by
  induction es generalizing g with
  | nil => simp
  | cons e es ih =>
    cases es with
    | nil => simp
    | cons e' es =>
      have ih := ih Trivia.space
      simp only [piecesList, List.length_append, List.length_cons] at ih ⊢
      omega

end Expr

/-- Blanks hold no comment. -/
theorem Trivia.lines_indent (width level : Nat) : (indent width level).flatMap lines = [] := by
  rw [List.flatMap_eq_nil_iff]
  intro t ht
  rw [List.eq_of_mem_replicate ht]
  rfl

/-- What is read of a comment does not depend on where it stands. -/
theorem Comment.lines_gap (width level : Nat) (comment : Option Comment) :
    (gap width level comment).flatMap Trivia.lines = (gap 0 0 comment).flatMap Trivia.lines := by
  unfold gap
  induction comment.getD [] with
  | nil => rfl
  | cons line lines ih => simp [lineGap, Trivia.lines_indent, ih]

/-- The comment in a gap that holds a written comment and blanks. -/
theorem Comment.commentOf_gap {front back : List Trivia} (hfront : front.flatMap Trivia.lines = [])
    (hback : back.flatMap Trivia.lines = []) (width level : Nat) (comment : Option Comment) :
    Trivia.commentOf (front ++ gap width level comment ++ back) = reread comment := by
  simp [Trivia.commentOf, reread, hfront, hback, lines_gap width level comment]

namespace Call

/-- The shapes of the calls of a chain. -/
def shapeList : List Call → List Call := mapOriginsList .forget .forgetPosition

/-- The gap in front of a call holds its comment. -/
theorem commentOf_gap (width level : Nat) (c : Call) :
    Trivia.commentOf (c.gap width level) = Comment.reread c.origin.comment :=
  @Comment.commentOf_gap [Trivia.newline] _ rfl (Trivia.lines_indent ..) ..

/-- Every call has a piece at least. -/
theorem length_le_piecesList (width level : Nat) (cs : List Call) :
    cs.length ≤ (piecesList width level cs).length := by
  induction cs with
  | nil => simp
  | cons c cs ih =>
    obtain ⟨o, kind, name, args⟩ := c
    simp only [piecesList, pieces, List.length_append, List.length_cons, List.length_nil]
    omega

end Call

/-! ## Reading an expression -/

section Expressions

open Cursor (Shows)

variable [Regex.Engine]

section Operations

/-- As an operand, pieces are read as what has the property `P`, up to their end, if that is their
end before what follows. -/
def ReadsOperand (need : Nat) (P : Option Comment → Expr → Prop) (pieces : List Trivia → List Piece)
    (ends : Kind → Prop) : Prop :=
  ∀ ⦃g b c c'⦄, Shows c (pieces g) c' → ends c'.current.kind →
    Outcome need b (P (Trivia.commentOf g)) (fun e => .ok e c') (Expr.operand b c)

/-- At the start of an operation, reading pieces amounts to a climb from what they stand for. -/
def ReadsOperation (need folds : Nat) (P : Option Comment → Expr → Prop)
    (pieces : List Trivia → List Piece) (ends : Kind → Prop) (fits : Nat → Prop) : Prop :=
  ∀ ⦃g b min c c'⦄, Shows c (pieces g) c' → ends c'.current.kind → fits min →
    Outcome need b (P (Trivia.commentOf g)) (fun e => Expr.climb (b - folds) min e c')
      (Expr.operation b min c)

variable {n f : Nat} {P : Option Comment → Expr → Prop} {pieces : List Trivia → List Piece}
  {ends : Kind → Prop} {fits : Nat → Prop}

/-- An operand starts an operation. -/
theorem ReadsOperand.operation (h : ReadsOperand n P pieces ends) :
    ReadsOperation n 0 P pieces ends fits := by
  intro g b min c c' hc hend _
  rcases h hc hend (b := b) with ⟨hneed, e, he, hr⟩ | ⟨hneed, x, c₁, hr, hx⟩
  · exact .inl ⟨hneed, e, he, Reader.bind_ok hr⟩
  · exact .inr ⟨hneed, x, c₁, Reader.bind_error hr, hx⟩

/-- What ends before a closing token is read by itself. -/
theorem ReadsOperation.closed (h : ReadsOperation n f P pieces ends fits) (hfits : fits 1)
    {g : List Trivia} {b : Nat} {c c' : Cursor} (hc : Shows c (pieces g) c')
    (hend : ends c'.current.kind) (hclose : BinaryOp.ofKind? c'.current.kind = none) :
    Outcome n b (P (Trivia.commentOf g)) (fun e => .ok e c') (Expr.operation b 1 c) := by
  rcases h hc hend hfits (b := b) with ⟨hneed, e, he, hr⟩ | hdeep
  · refine .inl ⟨hneed, e, he, hr.trans (Expr.climb_stop fun op hop => ?_)⟩
    rw [hclose] at hop
    cases hop
  · exact .inr hdeep

/-- In parentheses an operation is an operand. -/
theorem ReadsOperation.paren (h : ReadsOperation n f P pieces ends fits) (hfits : fits 1)
    (hend : ends .rParen) :
    ReadsOperand (n + 1) (fun k e' => ∃ e, P none e ∧ e' = e.inParens k)
      (fun g => Piece.enclosed true g pieces) fun _ => True := by
  intro g b c c' hc _
  obtain ⟨hk, -, hcomment, -, hc⟩ := Shows.cons_inv (p := ⟨g, .lParen, ['(']⟩) hc
  obtain ⟨c₁, hc₁, hc⟩ := Shows.append_inv hc
  obtain ⟨hclose, -, -, rfl⟩ := hc.single_inv
  cases b with
  | zero =>
    rw [Expr.operand_zero]
    exact .tooDeep (by omega) rfl
  | succ b =>
    rw [Expr.operand_primary (by rw [hk]; rfl), Expr.primary_lParen hk]
    have hin := h.closed hfits hc₁ (b := b) (by rwa [hclose]) (by rw [hclose]; rfl)
    rcases hin with ⟨hneed, e, he, hr⟩ | ⟨hneed, x, c₂, hr, hx⟩
    · refine .inl ⟨by omega, e.inParens (Trivia.commentOf g), ⟨e, he, rfl⟩, ?_⟩
      rw [Reader.bind_ok hr, Reader.expect_bind hclose, hcomment]
      rfl
    · exact .inr ⟨by omega, x, c₂, Reader.bind_error hr, hx⟩

/-- An operator between two operations makes one operation, if its place allows it. -/
theorem ReadsOperation.binary {op : BinaryOp} {nr fr : Nat} {Pr : Option Comment → Expr → Prop}
    {piecesR : List Trivia → List Piece} {endsR : Kind → Prop} {fitsR : Nat → Prop}
    (hl : ReadsOperation n f P pieces ends fits) (hr : ReadsOperation nr fr Pr piecesR endsR fitsR)
    (hends : ends op.kind) (hfitsR : fitsR (op.precedence + 1)) :
    ReadsOperation (max n (f + 1 + nr)) (f + 1)
      (fun k e => ∃ l r t, P k l ∧ Pr none r ∧ t.comment = none ∧ e = l.fold t op r)
      (fun g => pieces g ++ ⟨Trivia.space, op.kind, op.symbol.toList⟩ :: piecesR Trivia.space)
      (fun k => (∀ op', BinaryOp.ofKind? k = some op' → op'.precedence ≤ op.precedence) ∧ endsR k)
      (fun min => min ≤ op.precedence ∧ fits min) := by
  intro g b min c c' hc hend hmin
  obtain ⟨c₁, hc₁, hc⟩ := Shows.append_inv hc
  obtain ⟨hk, -, hcomment, -, hc⟩ := hc.cons_inv
  have hk : c₁.current.kind = op.kind := hk
  have hop : BinaryOp.ofKind? c₁.current.kind = some op := by rw [hk, BinaryOp.ofKind?_kind]
  rcases hl hc₁ (b := b) (by rwa [hk]) hmin.2 with ⟨hneed, l, hpl, hrun⟩ | ⟨hneed, x, c₂, hrun, hx⟩
  · have hrun : Expr.operation b min c = Expr.climb (b - f) min l c₁ := hrun
    rw [hrun]
    cases hb : b - f with
    | zero =>
      rw [Expr.climb_zero hop hmin.1]
      exact .tooDeep (by omega) rfl
    | succ b₁ =>
      rw [Expr.climb_fold hop hmin.1]
      rcases hr hc (b := b₁) hend.2 hfitsR with ⟨hneed', r, hpr, hrun'⟩ | ⟨hneed', x, c₂, hrun', hx⟩
      · -- the climb for the right operand stops behind it
        have hstop : Expr.operation b₁ (op.precedence + 1) c₁.advance = .ok r c' := by
          refine hrun'.trans ?_
          exact Expr.climb_stop fun op' hop' => Nat.lt_succ_of_le (hend.1 op' hop')
        rw [Reader.bind_ok hstop, show b₁ = b - (f + 1) by omega]
        exact .fits (by omega) ⟨l, r, c₁.current, hpl, hpr, hcomment, rfl⟩
      · rw [Reader.bind_error hrun']
        exact .tooDeep (by omega) hx
  · rw [hrun]
    exact .tooDeep (by omega) hx

theorem ReadsOperand.mono {n' : Nat} {P' : Option Comment → Expr → Prop} {ends' : Kind → Prop}
    (h : ReadsOperand n P pieces ends) (hn : n' = n) (hP : ∀ {k e}, P k e → P' k e)
    (hends : ∀ {k}, ends' k → ends k) : ReadsOperand n' P' pieces ends' := by
  subst hn
  intro g b c c' hc hend
  exact (h hc (hends hend)).mono fun _ => hP

theorem ReadsOperation.mono {n' f' : Nat} {P' : Option Comment → Expr → Prop} {ends' : Kind → Prop}
    {fits' : Nat → Prop} (h : ReadsOperation n f P pieces ends fits) (hn : n' = n) (hf : f' = f)
    (hP : ∀ {k e}, P k e → P' k e) (hends : ∀ {k}, ends' k → ends k)
    (hfits : ∀ {m}, fits' m → fits m) : ReadsOperation n' f' P' pieces ends' fits' := by
  subst hn hf
  intro g b min c c' hc hend hmin
  exact (h hc (hends hend) (hfits hmin)).mono fun _ => hP

end Operations

/-! ## Through the tree -/

/-- The written expression is read as the expression again. -/
structure Expr.Reads (e : Expr) : Prop where
  operand : e.folds = 0 → ∀ width level, ReadsOperand e.need e.ComesBack
    (fun g => e.pieces width level g) (e.endsBefore · = true)
  operation : ∀ width level, ReadsOperation e.need e.folds e.ComesBack
    (fun g => e.pieces width level g) (e.endsBefore · = true) e.fitsMin

namespace Expr

/-- An expression without operators outside parentheses is read as an operation if it is read as an
operand. -/
theorem Reads.of_operand {e : Expr} (hfolds : e.folds = 0)
    (h : ∀ width level, ReadsOperand e.need e.ComesBack (fun g => e.pieces width level g)
      (e.endsBefore · = true)) : e.Reads :=
  ⟨fun _ => h, fun width level => by rw [hfolds]; exact (h width level).operation⟩

/-- In parentheses, every expression is read as an operand. -/
theorem Reads.paren {e : Expr} (h : e.Reads) (width level : Nat) :
    ReadsOperand (e.need + 1) (e.ComesBackMarked true)
      (fun g => Piece.enclosed true g fun g => e.pieces width level g) fun _ => True := by
  refine ((h.operation width level).paren e.fitsMin_one
    (e.endsBefore_of_close rfl (by decide) rfl)).mono rfl ?_ id
  rintro k e' ⟨e₀, ⟨hshape, hled⟩, rfl⟩
  exact ⟨by rw [shape_inParens, hshape, marked, if_pos rfl], hled.inParens k⟩

/-- An expression in its place as an operand of a unary operator. -/
theorem Reads.enclosedOperand {e : Expr} (h : e.Reads) {parens : Bool}
    (hparens : parens = false → e.folds = 0) (width level : Nat) :
    ReadsOperand (within parens e.need) (e.ComesBackMarked parens)
      (fun g => Piece.enclosed parens g fun g => e.pieces width level g)
      (fun k => (parens || e.endsBefore k) = true) := by
  cases parens with
  | true => exact (h.paren width level).mono rfl id fun _ => trivial
  | false => exact (h.operand (hparens rfl) width level).mono rfl id id

/-- An expression in its place as an operand of a binary operator. -/
theorem Reads.enclosed {e : Expr} (h : e.Reads) (parens : Bool) (width level : Nat) :
    ReadsOperation (within parens e.need) (if parens then 0 else e.folds)
      (e.ComesBackMarked parens) (fun g => Piece.enclosed parens g fun g => e.pieces width level g)
      (fun k => (parens || e.endsBefore k) = true) (fun min => parens = true ∨ e.fitsMin min) := by
  cases parens with
  | true =>
    have hoperation := @ReadsOperand.operation _ _ _ _ _ (fun _ => True) (h.paren width level)
    exact hoperation.mono rfl rfl id
      (fun _ => trivial) fun _ => trivial
  | false =>
    exact (h.operation width level).mono rfl rfl id id fun hm => hm.resolve_left (by simp)

/-- A binary expression without a mark is read again if its operands are. -/
theorem reads_unparenthesized {o : Origin} {op : BinaryOp} {l r : Expr} (hl : l.Reads)
    (hr : r.Reads) : (Expr.binary o op l r false).Reads := by
  refine ⟨fun h => by simp [folds] at h, fun width level => ?_⟩
  have hleft := hl.enclosed (l.needsParens fun p => op.precedence ≤ p) width level
  have hright := hr.enclosed (r.needsParens fun p => op.precedence < p) width level
  have hends : ((l.needsParens fun p => op.precedence ≤ p) || l.endsBefore op.kind) = true := by
    rw [Bool.or_eq_true]
    refine (Bool.eq_false_or_eq_true _).imp_right fun h => endsBefore_kind op h
  have hfits : (r.needsParens fun p => op.precedence < p) = true ∨ r.fitsMin (op.precedence + 1) :=
    (Bool.eq_false_or_eq_true _).imp_right
      (fitsMin_of_needsParens fun p hp => by simpa using hp)
  refine (hleft.binary hright hends hfits).mono rfl rfl ?_ ?_ ?_
  · rintro k e ⟨l', r', t, ⟨hl', hled⟩, ⟨hr', -⟩, ht, rfl⟩
    exact ⟨by rw [shape_fold, hl', hr', reread], hled.fold ht op r'⟩
  · intro k hk
    simp only [endsBefore, Bool.false_or, Bool.and_eq_true] at hk
    refine ⟨fun op' hop' => ?_, hk.2⟩
    rw [hop'] at hk
    simpa using hk.1
  · intro min hmin
    have hmin : min ≤ op.precedence := hmin rfl
    refine ⟨hmin, (Bool.eq_false_or_eq_true _).imp_right (fitsMin_of_needsParens fun p hp => ?_)⟩
    simp only [decide_eq_true_eq] at hp
    omega

/-- So it is with a mark. -/
theorem reads_binary {o : Origin} {op : BinaryOp} {l r : Expr} (hl : l.Reads) (hr : r.Reads)
    (parenthesized : Bool) : (Expr.binary o op l r parenthesized).Reads := by
  have h := @reads_unparenthesized _ o op _ _ hl hr
  cases parenthesized with
  | false => exact h
  | true =>
    exact .of_operand rfl fun width level => (h.paren width level).mono rfl id fun _ => trivial

/-- A unary expression is read again if its operand is. -/
theorem reads_unary {o : Origin} {op : UnaryOp} {e : Expr} (h : e.Reads) :
    (Expr.unary o op e).Reads := by
  refine .of_operand rfl fun width level => ?_
  intro g b c c' hc hend
  have hfolds : (e.needsParens fun _ => false) = false → e.folds = 0 := by
    cases e with
    | binary _ _ _ _ p => cases p <;> simp [needsParens, folds]
    | _ => intro _; rfl
  obtain ⟨hk, -, hcomment, -, hc⟩ := hc.cons_inv
  have hop : UnaryOp.ofKind? c.current.kind = some op := UnaryOp.ofKind?_eq_some.2 hk
  cases b with
  | zero =>
    rw [operand_zero]
    exact .tooDeep (by simp [need]) rfl
  | succ b =>
    rw [operand_unary hop]
    have hin := (h.enclosedOperand hfolds width level hc (b := b) hend).map
      (f := fun x => .unary (.ofToken c.current) op x)
      (Q := (Expr.unary o op e).ComesBack (Trivia.commentOf g)) ?_
    · exact hin.succ
    · rintro x ⟨hshape, -⟩
      refine ⟨?_, hcomment⟩
      rw [reread, ← hshape]
      rfl

/-- An expression of one token is read off it. -/
theorem reads_token {e : Expr} {k : Kind} {text : List Char} (hfolds : e.folds = 0)
    (hneed : e.need = 1) (hpieces : ∀ width level g, e.pieces width level g = [⟨g, k, text⟩])
    (hk : UnaryOp.ofKind? k = none)
    (hread : ∀ {element : Reader Expr} {c}, c.current.kind = k →
      c.current.text = String.ofList text → e.endsBefore c.advance.current.kind = true →
      ∃ e', primary element c = .ok e' c.advance ∧ e'.shape = e.reread ∧
        e'.LedBy c.current.comment) : e.Reads := by
  refine .of_operand hfolds fun width level => ?_
  intro g b c c' hc hend
  simp only [hpieces] at hc
  obtain ⟨hkind, htext, hcomment, rfl⟩ := hc.single_inv
  rw [hneed]
  cases b with
  | zero =>
    rw [operand_zero]
    exact .tooDeep (by omega) rfl
  | succ b =>
    rw [operand_primary (by rw [hkind, hk])]
    obtain ⟨e', hrun, hshape, hled⟩ := hread hkind htext hend
    rw [hrun]
    exact .fits (by omega) ⟨hshape, hcomment ▸ hled⟩

/-- A number that has a literal is read again. -/
theorem reads_number {o : Origin} {v : Number} (h : v.HasLiteral) : (Expr.number o v).Reads := by
  refine reads_token rfl rfl (fun _ _ _ => rfl) rfl fun {element c} hk htext _ => ?_
  refine ⟨.number (.ofToken c.current) v, ?_, rfl, rfl⟩
  rw [primary_number hk, htext, String.ofList_toList, h.read]
  rfl

/-- A duration below its limit is read again. -/
theorem reads_duration {o : Origin} {micros : Nat} (h : micros < Duration.limit) :
    (Expr.duration o micros).Reads := by
  refine reads_token rfl rfl (fun _ _ _ => rfl) rfl fun {element c} hk htext _ => ?_
  refine ⟨.duration (.ofToken c.current) micros, ?_, rfl, rfl⟩
  rw [primary_duration hk, htext, String.ofList_toList, Duration.read_render h]
  rfl

/-- Every string is read again, whichever way it is written. -/
theorem reads_string {o : Origin} {v : String} {verbatim : Bool} :
    (Expr.string o v verbatim).Reads := by
  refine reads_token rfl rfl (fun _ _ _ => rfl) rfl fun {element c} hk htext _ => ?_
  refine ⟨.string (.ofToken c.current) v verbatim, ?_, rfl, rfl⟩
  rw [String.ofList_toList] at htext
  rw [primary_string hk, htext]
  cases verbatim with
  | false =>
    simp only [Bool.false_eq_true, if_false, Quote.readString_string,
      Quote.triple_isPrefixOf_string]
    rfl
  | true =>
    simp only [if_true, Quote.readString_verbatim, Quote.triple_isPrefixOf_verbatim]
    rfl

/-- Every reference is read again. -/
theorem reads_reference {o : Origin} {name : String} : (Expr.reference o name).Reads := by
  refine reads_token rfl rfl (fun _ _ _ => rfl) rfl fun {element c} hk htext _ => ?_
  refine ⟨.reference (.ofToken c.current) name, ?_, rfl, rfl⟩
  rw [primary_reference hk, htext, String.ofList_toList, Quote.readReference_reference]
  rfl

/-- Every pattern that a literal can have is read again. -/
theorem reads_regex {o : Origin} {pattern : String} (h : Regex.IsPattern pattern) :
    (Expr.regex o pattern).Reads := by
  refine reads_token rfl rfl (fun _ _ _ => rfl) rfl fun {element c} hk htext _ => ?_
  refine ⟨.regex (.ofToken c.current) pattern, ?_, rfl, rfl⟩
  obtain ⟨-, -, -, hread⟩ := h.literal_eq
  rw [primary_regex hk, htext, String.ofList_toList, hread]
  rfl

/-- Truth values are read again. -/
theorem reads_bool {o : Origin} {v : Bool} : (Expr.bool o v).Reads := by
  refine reads_token rfl rfl (fun _ _ _ => rfl) rfl fun {element c} hk htext _ => ?_
  refine ⟨.bool (.ofToken c.current) v, ?_, rfl, rfl⟩
  rw [primary_boolean hk, htext, String.ofList_toList]
  cases v <;> rfl

/-- The star is read again. -/
theorem reads_star {o : Origin} : (Expr.star o).Reads := by
  refine reads_token rfl rfl (fun _ _ _ => rfl) rfl fun {element c} hk _ _ => ?_
  exact ⟨.star (.ofToken c.current), primary_star hk, rfl, rfl⟩

/-- Every name is read again, where no call is opened behind it. -/
theorem reads_identifier {o : Origin} {name : String} : (Expr.identifier o name).Reads := by
  refine reads_token rfl rfl (fun _ _ _ => rfl) rfl fun {element c} hk htext hend => ?_
  rw [endsBefore, Bool.and_eq_true, bne_iff_ne, Option.isNone_iff_eq_none] at hend
  rw [String.ofList_toList] at htext
  refine ⟨.identifier (.ofToken c.current) name, ?_, rfl, rfl⟩
  have hcalls : calls element c.advance.size c.advance = .ok [] c.advance := calls_none hend.2
  rw [primary_identifier hk hend.1, chainFrom, Reader.liftM_self, Reader.rounds_bind,
    Reader.bind_ok hcalls, htext]
  rfl

/-- A lambda is read again if its body is. -/
theorem reads_lambda {o : Origin} {body : Expr} (h : body.Reads) : (Expr.lambda o body).Reads := by
  refine .of_operand rfl fun width level => ?_
  intro g b c c' hc hend
  obtain ⟨hk, -, hcomment, -, hc⟩ := hc.cons_inv
  obtain ⟨hcolon, -, -, -, hc⟩ := hc.cons_inv
  simp only [endsBefore, Bool.and_eq_true, Option.isNone_iff_eq_none] at hend
  cases b with
  | zero =>
    rw [operand_zero]
    exact .tooDeep (by simp [need]) rfl
  | succ b =>
    rw [operand_primary (by rw [hk]; rfl), primary_lambda hk, Reader.expect_bind hcolon]
    have hbody := (h.operation width level).closed body.fitsMin_one hc hend.2 hend.1 (b := b)
    refine (hbody.map (f := fun x => Expr.lambda (.ofToken c.current) x) fun x hx => ?_).succ
    exact ⟨by rw [reread, ← hx.1]; rfl, hcomment⟩

/-! ### Lists -/

/-- The shapes of some expressions. -/
def shapeList : List Expr → List Expr := mapOriginsList .forget .forgetPosition

/-- The elements of a list come back in their order, or one of them nests too deep. -/
theorem reads_elements {es : List Expr} (hes : ∀ e ∈ es, e.Reads) (hne : es ≠ []) {close : Kind}
    (hclose : close = .rParen ∨ close = .rBracket) {width level b : Nat} {text : List Char}
    {rounds : Nat} (hrounds : es.length ≤ rounds) {g : List Trivia} {c c' : Cursor}
    (hc : Shows c (piecesList width level g es ++ [⟨[], close, text⟩]) c') :
    Outcome (needList es) b (fun es' => shapeList es' = rereadList es) (fun es' => .ok es' c')
      (elements (Expr.operation b 1) close rounds c) := by
  induction es generalizing g c rounds with
  | nil => exact absurd rfl hne
  | cons e es ih =>
    obtain ⟨rounds, rfl⟩ : ∃ n, rounds = n + 1 := ⟨rounds - 1, by simp at hrounds; omega⟩
    have he := hes e (by simp)
    simp only [elements, Reader.liftM_self]
    rw [needList]
    cases es with
    | nil =>
      obtain ⟨c₁, hc₁, hc⟩ := Shows.append_inv hc
      obtain ⟨hk, -, -, rfl⟩ := hc.single_inv
      have hk : c₁.current.kind = close := hk
      have hop : BinaryOp.ofKind? close = none := by rcases hclose with rfl | rfl <;> rfl
      have hend : e.endsBefore c₁.current.kind = true := by
        rw [hk]
        exact e.endsBefore_of_close hop (by rcases hclose with rfl | rfl <;> decide)
          (by rcases hclose with rfl | rfl <;> rfl)
      have hrun := (he.operation width level).closed e.fitsMin_one hc₁ hend (by rw [hk, hop])
        (b := b)
      refine hrun.bind fun e' he' => ?_
      rw [Reader.peek_bind, if_neg (by rw [hk]; rcases hclose with rfl | rfl <;> decide),
        Reader.expect_bind hk]
      refine .fits (Nat.zero_le _) (a := [e']) ?_
      rw [rereadList, rereadList, ← he'.1]
      rfl
    | cons e₁ es =>
      rw [piecesList, List.append_assoc, List.cons_append] at hc
      swap
      · simp
      obtain ⟨c₁, hc₁, hc⟩ := Shows.append_inv hc
      obtain ⟨hk, -, -, -, hc⟩ := hc.cons_inv
      have hk : c₁.current.kind = .comma := hk
      have hend : e.endsBefore c₁.current.kind = true := by
        rw [hk]
        exact e.endsBefore_of_close rfl (by decide) rfl
      have hrun := (he.operation width level).closed e.fitsMin_one hc₁ hend (by rw [hk]; rfl)
        (b := b)
      refine hrun.bind fun e' he' => ?_
      rw [Reader.peek_bind, if_pos hk, Reader.take_bind]
      have hrest := ih (fun x hx => hes x (by simp [hx])) (by simp) (by simpa using hrounds) hc
      refine hrest.map (f := fun es' => e' :: es') fun es' hes' => ?_
      rw [rereadList, ← he'.1, ← hes']
      rfl

/-- Arguments come back in their order, also if there are none. -/
theorem reads_arguments {ok : Number → Prop} {es : List Expr} (hes : ∀ e ∈ es, e.Reads)
    (hwf : WellFormedList ok es) {close : Kind} (hclose : close = .rParen ∨ close = .rBracket)
    {width level b : Nat} {text : List Char} {c c' : Cursor}
    (hc : Shows c (piecesList width level [] es ++ [⟨[], close, text⟩]) c') :
    Outcome (needList es) b (fun es' => shapeList es' = rereadList es) (fun es' => .ok es' c')
      (arguments (Expr.operation b 1) close c) := by
  simp only [arguments, Reader.liftM_self]
  rw [Reader.peek_bind]
  cases es with
  | nil =>
    obtain ⟨hk, -, -, rfl⟩ := Shows.single_inv hc
    rw [if_pos hk]
    exact .fits (Nat.zero_le _) (a := []) rfl
  | cons e es =>
    have hfirst : c.current.kind ≠ close := by
      obtain ⟨p, ps, hps, -, hp⟩ : Starts [] (piecesList width level [] (e :: es)) := by
        have hstarts := starts_pieces hwf.1 width level []
        cases es with
        | nil => exact hstarts
        | cons e' es => exact hstarts.append _
      rw [hps] at hc
      obtain ⟨hk, -⟩ := Shows.cons_inv hc
      rintro rfl
      rw [← hk] at hp
      rcases hclose with h | h <;> rw [h] at hp <;> cases hp
    have hlen := hc.length_le
    have hsize := c.left_le_size
    have hcount := length_le_piecesList width level [] (e :: es)
    rw [if_neg hfirst, Reader.rounds_bind]
    refine reads_elements hes (by simp) hclose ?_ hc
    simp only [List.length_append, List.length_cons, List.length_nil] at hlen hcount ⊢
    omega

/-- A list is read again if its elements are. -/
theorem reads_list {ok : Number → Prop} {o : Origin} {es : List Expr} (hes : ∀ e ∈ es, e.Reads)
    (hwf : WellFormedList ok es) : (Expr.list o es).Reads := by
  refine .of_operand rfl fun width level => ?_
  intro g b c c' hc _
  obtain ⟨hk, -, hcomment, -, hc⟩ := hc.cons_inv
  cases b with
  | zero =>
    rw [operand_zero]
    exact .tooDeep (by simp [need]) rfl
  | succ b =>
    rw [operand_primary (by rw [hk]; rfl), primary_lBracket hk]
    have hin := reads_arguments hes hwf (.inr rfl) hc (b := b)
    refine (hin.map (f := fun es' => Expr.list (.ofToken c.current) es') fun es' hes' => ?_).succ
    exact ⟨by rw [reread, ← hes']; rfl, hcomment⟩

/-- A function call is read again if its arguments are. -/
theorem reads_function {ok : Number → Prop} {o : Origin} {name : String} {args : List Expr}
    (hargs : ∀ e ∈ args, e.Reads) (hwf : WellFormedList ok args) :
    (Expr.function (.mk o .global name args)).Reads := by
  refine .of_operand rfl fun width level => ?_
  intro g b c c' hc _
  have hc : Shows c (⟨g, .identifier, name.toList⟩ :: ⟨[], .lParen, ['(']⟩ ::
      (piecesList width level [] args ++ [⟨[], .rParen, [')']⟩])) c' := hc
  obtain ⟨hk, htext, hcomment, -, hc⟩ := hc.cons_inv
  obtain ⟨hparen, -, -, -, hc⟩ := hc.cons_inv
  rw [String.ofList_toList] at htext
  cases b with
  | zero =>
    rw [operand_zero]
    exact .tooDeep (by simp [need]) rfl
  | succ b =>
    rw [operand_primary (by rw [hk]; rfl), primary_call hk hparen, htext]
    have hin := reads_arguments hargs hwf (.inl rfl) hc (b := b)
    refine (hin.map (f := fun es' => Expr.function (.mk (.ofToken c.current) .global name es'))
      fun es' hes' => ?_).succ
    exact ⟨by rw [reread, Call.reread, ← hes']; rfl, hcomment⟩

end Expr

/-! ### Chains -/

namespace Call

/-- The calls of a chain come back in their order. -/
theorem reads_calls {ok : Number → Prop} {cs : List Call} (hcs : ∀ x ∈ cs, ∀ e ∈ x.args, e.Reads)
    (hwf : WellFormedList ok cs) {width level b rounds : Nat} (hrounds : cs.length ≤ rounds)
    {c c' : Cursor} (hc : Shows c (piecesList width level cs) c')
    (hend : CallKind.ofKind? c'.current.kind = none) :
    Outcome (needList cs) b (fun cs' => shapeList cs' = rereadList cs) (fun cs' => .ok cs' c')
      (Expr.calls (Expr.operation b 1) rounds c) := by
  induction cs generalizing c rounds with
  | nil =>
    obtain rfl := hc.nil_inv
    cases rounds with
    | zero => exact .fits (Nat.zero_le _) (a := []) rfl
    | succ rounds =>
      rw [Expr.calls_none hend]
      exact .fits (Nat.zero_le _) (a := []) rfl
  | cons call cs ih =>
    obtain ⟨rounds, rfl⟩ : ∃ n, rounds = n + 1 := ⟨rounds - 1, by simp at hrounds; omega⟩
    obtain ⟨o, kind, name, args⟩ := call
    obtain ⟨hglobal, -, ⟨-, hargs⟩, hwf⟩ := hwf
    have hgap := commentOf_gap width (kind.level level) (.mk o kind name args)
    obtain ⟨mark, hmark, hof⟩ : ∃ mark, kind.kind? = some mark ∧
        CallKind.ofKind? mark = some kind := by
      cases kind with
      | global => exact absurd rfl hglobal
      | _ => exact ⟨_, rfl, rfl⟩
    simp only [piecesList, pieces, CallKind.lead, hmark, List.append_assoc, List.cons_append,
      List.nil_append] at hc
    obtain ⟨hk, -, hcomment, -, hc⟩ := hc.cons_inv
    obtain ⟨hname, htext, -, -, hc⟩ := hc.cons_inv
    obtain ⟨hparen, -, -, -, hc⟩ := hc.cons_inv
    -- the arguments end with their closing parenthesis, and the other calls begin behind it
    rw [← List.singleton_append (l := piecesList width level cs), ← List.append_assoc] at hc
    obtain ⟨c₁, hc₁, hc⟩ := Shows.append_inv hc
    rw [String.ofList_toList] at htext
    have hk : c.current.kind = mark := hk
    simp only [Expr.calls_some (show CallKind.ofKind? c.current.kind = _ by rw [hk, hof]),
      Expr.callArguments, Reader.liftM_self]
    rw [Reader.expect_bind hname, needList, bind_assoc, Reader.expect_bind hparen, htext]
    have hin := Expr.reads_arguments (hcs (.mk o kind name args) (by simp)) hargs (.inl rfl) hc₁
      (b := b)
    refine hin.bind fun es' hes' => ?_
    have hes' : Expr.shapeList es' = Expr.rereadList args := hes'
    have hrest := ih (fun x hx => hcs x (by simp [hx])) hwf (by simpa using hrounds) hc
    refine hrest.map (f := fun cs' => .mk (.ofToken c.current) kind name es' :: cs')
      fun cs' hcs' => ?_
    rw [rereadList, reread, ← hcs', ← hes']
    have horigin : (Origin.ofToken c.current).forgetPosition =
        ⟨.start, Comment.reread (Call.mk o kind name args).origin.comment⟩ :=
      congrArg (Origin.mk .start) (hcomment.trans hgap)
    rw [← horigin]
    rfl

end Call

/-- A chain is read again if the arguments of its calls are. -/
theorem Expr.reads_chain {ok : Number → Prop} {o : Origin} {s : Ident} {cs : List Call}
    (hs : s.IsSource cs) (hcs : ∀ x ∈ cs, ∀ e ∈ x.args, e.Reads) (hwf : Call.WellFormedList ok cs) :
    (Expr.chain o s cs).Reads := by
  refine .of_operand rfl fun width level => ?_
  intro g b c c' hc hend
  obtain ⟨hk, htext, hcomment, -, hc⟩ := hc.cons_inv
  have hk : c.current.kind = Lexer.wordKind s.name := hk
  rw [String.ofList_toList] at htext
  rw [Expr.endsBefore, Option.isNone_iff_eq_none] at hend
  have hrounds : cs.length ≤ c.advance.size :=
    (Call.length_le_piecesList width level cs).trans (hc.length_le.trans c.advance.left_le_size)
  -- with calls behind it a name is the source of a chain, and a keyword is one in any case
  have hrun : ∀ {b} (keyword : Bool), keyword = true ∨ cs ≠ [] →
      Outcome (Call.needList cs) b ((Expr.chain o s cs).ComesBack (Trivia.commentOf g))
        (fun e => .ok e c') (Expr.chainFrom (Expr.operation b 1) c.current keyword c.advance) := by
    intro b keyword hkeyword
    have hcalls := Call.reads_calls hcs hwf hrounds hc hend (b := b)
    rw [Expr.chainFrom, Reader.liftM_self, Reader.rounds_bind]
    rw [← Nat.max_zero (Call.needList cs)]
    refine hcalls.bind fun cs' hcs' => ?_
    · have hif : (cs'.isEmpty && !keyword) = false := by
        rcases hkeyword with rfl | hne
        · simp
        · cases cs' with
          | nil =>
            cases cs with
            | nil => exact absurd rfl hne
            | cons => cases hcs'
          | cons => rfl
      simp only [hif, Bool.false_eq_true, if_false]
      refine .fits (Nat.zero_le _) (a := Expr.chain (.ofToken c.current)
        ⟨c.current.text, ⟨c.current.position, none⟩⟩ cs') ⟨?_, hcomment⟩
      rw [Expr.reread, ← hcs', ← htext]
      rfl
  cases b with
  | zero =>
    rw [Expr.operand_zero]
    exact .tooDeep (by simp [Expr.need]) rfl
  | succ b =>
    obtain ⟨-, hkinds⟩ := hs.spells
    have hunary : UnaryOp.ofKind? c.current.kind = none := by
      rw [hk]
      simp only [List.mem_cons, List.not_mem_nil, or_false] at hkinds
      rcases hkinds with h | h | h <;> rw [h] <;> rfl
    rw [Expr.operand_primary hunary]
    rcases hs with ⟨hname, hne⟩ | hs
    · -- the first call stands next, so no arguments do
      have hparen : c.advance.current.kind ≠ .lParen := by
        obtain ⟨⟨_, kind, name, args⟩, cs, rfl⟩ := List.exists_cons_of_ne_nil hne
        have hglobal : kind ≠ .global := hwf.1
        cases kind with
        | global => exact absurd rfl hglobal
        | _ =>
          obtain ⟨hmark, -⟩ := Shows.cons_inv hc
          rw [hmark]
          simp
      rw [Expr.primary_identifier (by rw [hk, hname.wordKind_eq]) hparen]
      exact (hrun false (.inr hne)).succ
    · have hkeyword : c.current.kind = .stream ∨ c.current.kind = .batch := by
        rw [hk]
        rcases hs with h | h <;> rw [h] <;> decide
      rw [Expr.primary_keyword hkeyword]
      exact (hrun true (.inl rfl)).succ

mutual

/-- What is written for an expression that has a literal for each of its values is read as the
expression again. -/
theorem Expr.reads {e : Expr} (h : e.WellFormed Number.HasLiteral) : e.Reads := by
  match e with
  | .number .. => exact Expr.reads_number h
  | .string .. => exact Expr.reads_string
  | .duration .. => exact Expr.reads_duration h
  | .regex .. => exact Expr.reads_regex h
  | .bool .. => exact Expr.reads_bool
  | .star .. => exact Expr.reads_star
  | .list _ es => exact Expr.reads_list (Expr.readsList h) h
  | .identifier .. => exact Expr.reads_identifier
  | .reference .. => exact Expr.reads_reference
  | .lambda _ body => exact Expr.reads_lambda (Expr.reads (e := body) h)
  | .unary _ _ x => exact Expr.reads_unary (Expr.reads (e := x) h)
  | .binary _ _ l r p => exact Expr.reads_binary (Expr.reads h.1) (Expr.reads h.2) p
  | .function (.mk _ kind name args) =>
    obtain ⟨hkind, -, hargs⟩ := h
    have hkind : kind = .global := hkind
    subst hkind
    exact Expr.reads_function (Expr.readsList hargs) hargs
  | .chain _ s cs => exact Expr.reads_chain h.1 (Call.readsList h.2) h.2

theorem Expr.readsList {es : List Expr} (h : Expr.WellFormedList Number.HasLiteral es) :
    ∀ e ∈ es, e.Reads := by
  match es with
  | [] => simp
  | e :: es =>
    have ih := Expr.reads (e := e) h.1
    have ihs := @Expr.readsList es h.2
    intro x hx
    rcases List.mem_cons.1 hx with rfl | hx
    · exact ih
    · exact ihs x hx

theorem Call.readsList {cs : List Call} (h : Call.WellFormedList Number.HasLiteral cs) :
    ∀ c ∈ cs, ∀ e ∈ c.args, e.Reads := by
  match cs with
  | [] => simp
  | .mk o kind name args :: cs =>
    have ih := @Expr.readsList args h.2.2.1.2
    have ihs := @Call.readsList cs h.2.2.2
    intro x hx
    rcases List.mem_cons.1 hx with rfl | hx
    · exact ih
    · exact ihs x hx

end

end Expressions

end Tickscript
