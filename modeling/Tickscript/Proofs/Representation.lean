import Tickscript.Pattern.Limits
import Tickscript.Proofs.ParsedTrees

/-!
# What is true of every node that was read

Whoever walks over a tree (the printer, the analysis of a program, a loader) relies on facts that
the type of trees does not state: names are names, literals are in range, parentheses stand wherever
the grouping needs them, and comments consist of trimmed lines. Here these facts are stated node
by node: `Expr.Regular` says what one node may hold, `Expr.subterms` lists the nodes of a tree, and
`Program.Regular` puts them together for a program. `Program.regular_of_parse` is the result: every
program that is read is regular.

The values and the grouping come from `Program.parsed`, which states them by recursion over the
tree. The comments need an induction of their own over the derivation, because folding an operator
moves the comment at the front of its left operand, however deep it lies there, to the new node.
-/

namespace Tickscript

open Lexer (Spells)

/-! ## The parts of a tree -/

mutual

/-- The expressions inside an expression, at any depth. -/
def Expr.inner : Expr → List Expr
  | .list _ es => Expr.subtermsList es
  | .lambda _ body => body :: body.inner
  | .unary _ _ e => e :: e.inner
  | .binary _ _ l r _ => l :: l.inner ++ r :: r.inner
  | .function (.mk _ _ _ args) => Expr.subtermsList args
  | .chain _ _ cs => Call.subtermsList cs
  | _ => []

/-- Some expressions, each with those inside it. -/
def Expr.subtermsList : List Expr → List Expr
  | [] => []
  | e :: es => e :: e.inner ++ Expr.subtermsList es

/-- The arguments of some calls, each with the expressions inside it. -/
def Call.subtermsList : List Call → List Expr
  | [] => []
  | .mk _ _ _ args :: cs => Expr.subtermsList args ++ Call.subtermsList cs

end

attribute [simp] Expr.inner Expr.subtermsList Call.subtermsList

/-- An expression and all expressions inside it. -/
def Expr.subterms (e : Expr) : List Expr := e :: e.inner

/-- The origins that one node holds: its own and, in a chain, those of the source and of the
calls. -/
def Expr.ownOrigins : Expr → List Origin
  | .chain o s cs => o :: s.origin :: cs.map Call.origin
  | e => [e.origin]

/-- The expressions in a statement, at any depth. -/
def Statement.exprs : Statement → List Expr
  | declare _ _ (.value e) => e.subterms
  | declare _ _ (.template _) => []
  | expr e => e.subterms

/-- The name that a statement declares. -/
def Statement.declaredName? : Statement → Option String
  | declare _ name _ => some name.name
  | expr _ => none

/-- The origins that a statement holds besides those in its expressions. -/
def Statement.ownOrigins : Statement → List Origin
  | declare o name _ => [o, name.origin]
  | expr _ => []

namespace Program

/-- The expressions in a program, at any depth. -/
def exprs (p : Program) : List Expr := p.statements.flatMap Statement.exprs

/-- All origins in a program. -/
def origins (p : Program) : List Origin :=
  p.dbrps.map DbrpLine.origin ++ p.statements.flatMap Statement.ownOrigins
    ++ p.exprs.flatMap Expr.ownOrigins

/-- All comments in a program. -/
def comments (p : Program) : List Comment :=
  p.origins.filterMap Origin.comment ++ p.trailingComment.toList

end Program

/-- What is inside some expressions is inside one of them. -/
theorem Expr.mem_subtermsList {x : Expr} {es : List Expr} :
    x ∈ Expr.subtermsList es ↔ ∃ e ∈ es, x ∈ e.subterms := by
  induction es with
  | nil => simp [Expr.subtermsList]
  | cons e es ih => simp [Expr.subtermsList, Expr.subterms, ih, or_assoc]

/-- What is inside some calls is inside one of their arguments. -/
theorem Call.mem_subtermsList {x : Expr} {cs : List Call} :
    x ∈ Call.subtermsList cs ↔ ∃ c ∈ cs, ∃ e ∈ c.args, x ∈ e.subterms := by
  induction cs with
  | nil => simp [Call.subtermsList]
  | cons c cs ih =>
    obtain ⟨o, kind, name, args⟩ := c
    simp [Call.subtermsList, Expr.mem_subtermsList, ih, Call.args]

/-- The expressions directly inside an expression. Those of a call or a chain are the arguments. -/
def Expr.children : Expr → List Expr
  | .list _ es => es
  | .lambda _ body => [body]
  | .unary _ _ e => [e]
  | .binary _ _ l r _ => [l, r]
  | .function call => call.args
  | .chain _ _ cs => cs.flatMap Call.args
  | _ => []

/-- What is further in than an expression is one of its children, or inside one. -/
theorem Expr.mem_inner {x e : Expr} : x ∈ e.inner ↔ ∃ y ∈ e.children, x ∈ y.subterms := by
  cases e with
  | list => exact mem_subtermsList
  | chain =>
    simp only [inner, children, Call.mem_subtermsList, List.mem_flatMap]
    grind
  | function call =>
    cases call
    exact mem_subtermsList
  | _ => simp [inner, children, subterms, or_assoc]

theorem Expr.sizeOf_lt_of_mem_children {x e : Expr} (h : x ∈ e.children) :
    sizeOf x < sizeOf e := by
  have hcall : ∀ c : Call, x ∈ c.args → sizeOf x < sizeOf c := by
    rintro ⟨o, kind, name, args⟩ hx
    have hlt : sizeOf x < sizeOf args := List.sizeOf_lt_of_mem hx
    simp only [Call.mk.sizeOf_spec]
    omega
  cases e with
  | list o es =>
    have hlt : sizeOf x < sizeOf es := List.sizeOf_lt_of_mem h
    simp only [list.sizeOf_spec]
    omega
  | lambda | unary =>
    cases List.mem_singleton.1 h
    simp
  | binary o op l r p =>
    simp only [children, List.mem_cons, List.not_mem_nil, or_false] at h
    rcases h with rfl | rfl
    all_goals
      simp only [binary.sizeOf_spec]
      omega
  | function c =>
    have hlt := hcall c h
    simp only [function.sizeOf_spec]
    omega
  | chain o s cs =>
    obtain ⟨c, hc, hx⟩ := List.mem_flatMap.1 h
    have hlt := hcall c hx
    have hlt' := List.sizeOf_lt_of_mem hc
    simp only [chain.sizeOf_spec]
    omega
  | _ => cases h

/-- A relation between every node and what is directly inside it holds between a tree and all that
is inside it, if it can be put together. -/
theorem Expr.rel_subterms {R : Expr → Expr → Prop} (hrefl : ∀ e, R e e)
    (htrans : ∀ {x y z}, R x y → R y z → R x z) (hchild : ∀ e, ∀ x ∈ e.children, R x e)
    (e : Expr) : ∀ x ∈ e.subterms, R x e := by
  intro x hx
  rcases List.mem_cons.1 hx with rfl | hx
  · exact hrefl _
  · obtain ⟨y, hy, hxy⟩ := mem_inner.1 hx
    have hlt := sizeOf_lt_of_mem_children hy
    exact htrans (rel_subterms hrefl htrans hchild y x hxy) (hchild e y hy)
termination_by sizeOf e

/-! ## Regular nodes -/

/-- The words that are not names. -/
def Lexer.keywords : List String :=
  ["var", "dbrp", "stream", "batch", "lambda", "TRUE", "FALSE", "AND", "OR", "NOT"]

/-- A name: letters, digits and underscores, no digit in front, and not a keyword. -/
structure Lexer.IsName (name : String) : Prop where
  characters : ∃ c cs, name.toList = c :: cs ∧ isNameStart c = true ∧
    ∀ x ∈ cs, isNamePart x = true
  notKeyword : name ∉ keywords

/-- Whether `x` is the result of an undefined operation. -/
def Binary64.isUndefined (x : Binary64) : Bool := infinityMagnitude < x.magnitude

/-- The operator of a binary expression that has no parentheses around it. -/
def Expr.bareOp? : Expr → Option BinaryOp
  | .binary _ op _ _ false => some op
  | _ => none

/-- What one node of a tree may hold. Of the nodes below it only the operators count, which have to
group as they stand. -/
def Expr.Regular : Expr → Prop
  | .number _ (.int n) => n < 2 ^ 63
  | .number _ (.float x) => x.isNegative = false ∧ x.isUndefined = false
  | .string _ v verbatim => verbatim = true → Quote.FitsTriple v
  | .duration _ micros => micros < 2 ^ 64
  | .identifier _ name => Lexer.IsName name
  | .unary _ _ e => e.bareOp? = none
  | .binary _ op l r _ =>
    (∀ inner, l.bareOp? = some inner → op.precedence ≤ inner.precedence) ∧
      ∀ inner, r.bareOp? = some inner → op.precedence < inner.precedence
  | .function call => call.kind = .global ∧ Lexer.IsName call.name
  | .chain _ s cs =>
    (Lexer.IsName s.name ∧ cs ≠ [] ∨ s.name = "stream" ∨ s.name = "batch") ∧
      ∀ c ∈ cs, c.kind ∈ [.chain, .property, .dynamic] ∧ Lexer.IsName c.name
  | .regex .. | .bool .. | .star .. | .list .. | .reference .. | .lambda .. => True

/-- What a program may hold: regular nodes, declared names that are names, and comments that have
lines, each of them trimmed. -/
structure Program.Regular (p : Program) : Prop where
  exprs : ∀ e ∈ p.exprs, e.Regular
  names : ∀ s ∈ p.statements, ∀ name ∈ s.declaredName?, Lexer.IsName name
  comments : ∀ lines ∈ p.comments, lines ≠ [] ∧
    ∀ line ∈ lines, Text.trim line.toList = line.toList ∧ '\n' ∉ line.toList

/-- Words that are scanned as identifiers are names. -/
theorem Lexer.Spells.isName {name : String} (h : Spells .identifier name.toList) :
    Lexer.IsName name := by
  generalize hcs : name.toList = cs at h
  cases h with
  | word hc hcs' hk _ =>
    refine ⟨⟨_, _, hcs, hc, hcs'⟩, fun hmem => ?_⟩
    have hword : ∀ w ∈ keywords, wordKind w ≠ .identifier := by decide
    rw [← hcs, String.ofList_toList] at hk
    exact hword name hmem hk
  | symbol h => simp [symbols] at h

theorem Number.IsLegal.regular {v : Number} (h : v.IsLegal) (o : Origin) :
    (Expr.number o v).Regular := by
  cases v with
  | int n =>
    have hn : n ≤ 2 ^ 63 - 1 := h
    show n < 2 ^ 63
    omega
  | float x =>
    rcases h with ⟨hsign, hfinite⟩ | rfl
    · refine ⟨hsign, ?_⟩
      simp only [Binary64.isFinite, decide_eq_true_eq] at hfinite
      simp only [Binary64.isUndefined, decide_eq_false_iff_not]
      omega
    · exact ⟨by decide +kernel, by decide +kernel⟩

/-- An operand that fits its place groups as it stands there. -/
theorem Expr.fitsMin.le_of_bareOp? {e : Expr} {min : Nat} (h : e.fitsMin min) {op : BinaryOp}
    (hop : e.bareOp? = some op) : min ≤ op.precedence := by
  unfold Expr.bareOp? at hop
  split at hop
  · cases hop
    exact h rfl
  · cases hop

/-- A whole expression has no operator that stands bare. -/
theorem Expr.Whole.bareOp?_eq {e : Expr} (h : e.Whole) : e.bareOp? = none := by
  cases hop : e.bareOp? with
  | none => rfl
  | some op =>
    have := (h (op.precedence + 1)).le_of_bareOp? hop
    omega

/-- A call that is not global is one of those in a chain. -/
theorem CallKind.mem_of_ne_global {k : CallKind} (h : k ≠ .global) :
    k ∈ [chain, property, dynamic] := by
  cases k <;> simp_all

section

variable [Regex.Engine]

mutual

/-- A tree that can be written, with parentheses where it needs them, has regular nodes only. -/
theorem Expr.WellFormed.regular {e : Expr} (hwf : e.WellFormed Number.IsLegal) (hn : e.Normal) :
    ∀ x ∈ e.subterms, x.Regular := by
  suffices h : e.Regular ∧ ∀ x ∈ e.inner, x.Regular by
    intro x hx
    rcases List.mem_cons.1 hx with rfl | hx
    · exact h.1
    · exact h.2 x hx
  match e with
  | .number _ v => exact ⟨Number.IsLegal.regular hwf _, by simp [Expr.inner]⟩
  | .string .. | .duration .. => exact ⟨hwf, by simp [Expr.inner]⟩
  | .regex .. | .bool .. | .star .. | .reference .. => exact ⟨trivial, by simp [Expr.inner]⟩
  | .identifier _ name => exact ⟨Lexer.Spells.isName hwf, by simp [Expr.inner]⟩
  | .list _ es => exact ⟨trivial, @Expr.WellFormedList.regular es hwf hn⟩
  | .lambda _ b => exact ⟨trivial, @Expr.WellFormed.regular b hwf hn⟩
  | .unary _ _ x => exact ⟨hn.1.bareOp?_eq, @Expr.WellFormed.regular x hwf hn.2⟩
  | .binary _ op l r _ =>
    obtain ⟨⟨hfitsL, hnl⟩, hfitsR, hnr⟩ := hn
    refine ⟨⟨fun _ => hfitsL.le_of_bareOp?, fun _ => hfitsR.le_of_bareOp?⟩, fun x hx => ?_⟩
    rcases List.mem_append.1 hx with hx | hx
    · exact @Expr.WellFormed.regular l hwf.1 hnl x hx
    · exact @Expr.WellFormed.regular r hwf.2 hnr x hx
  | .function (.mk _ _ _ args) =>
    exact ⟨⟨hwf.1, hwf.2.1.isName⟩, @Expr.WellFormedList.regular args hwf.2.2 hn⟩
  | .chain _ s cs =>
    obtain ⟨hcalls, hinner⟩ := @Call.WellFormedList.regular cs hwf.2 hn
    exact ⟨⟨hwf.1.imp_left fun h => ⟨h.1.isName, h.2⟩, hcalls⟩, hinner⟩

theorem Expr.WellFormedList.regular {es : List Expr}
    (hwf : Expr.WellFormedList Number.IsLegal es) (hn : Expr.NormalList es) :
    ∀ x ∈ Expr.subtermsList es, x.Regular := by
  match es with
  | [] => simp [Expr.subtermsList]
  | e :: es =>
    intro x hx
    rcases List.mem_append.1 hx with hx | hx
    · exact @Expr.WellFormed.regular e hwf.1 hn.1 x hx
    · exact @Expr.WellFormedList.regular es hwf.2 hn.2 x hx

theorem Call.WellFormedList.regular {cs : List Call}
    (hwf : Call.WellFormedList Number.IsLegal cs) (hn : Call.NormalList cs) :
    (∀ c ∈ cs, c.kind ∈ [CallKind.chain, .property, .dynamic] ∧ Lexer.IsName c.name) ∧
      ∀ x ∈ Call.subtermsList cs, x.Regular := by
  match cs with
  | [] => simp [Call.subtermsList]
  | .mk o kind name args :: cs =>
    obtain ⟨hkind, -, ⟨hname, hargs⟩, hcs⟩ := hwf
    obtain ⟨hcalls, hinner⟩ := @Call.WellFormedList.regular cs hcs hn.2
    refine ⟨fun c hc => ?_, fun x hx => ?_⟩
    · rcases List.mem_cons.1 hc with rfl | hc
      · exact ⟨CallKind.mem_of_ne_global hkind, hname.isName⟩
      · exact hcalls c hc
    · rcases List.mem_append.1 hx with hx | hx
      · exact @Expr.WellFormedList.regular args hargs hn.1 x hx
      · exact hinner x hx

end

end

/-! ## Comments -/

namespace Expr

/-- Every comment in an expression is trimmed, at any depth. -/
def Commented (e : Expr) : Prop := ∀ x ∈ e.subterms, ∀ o ∈ x.ownOrigins, Comment.Trimmed o.comment

/-- An expression without parts is commented if its own comment is trimmed. -/
theorem commented_leaf {e : Expr} (hinner : e.inner = []) (hown : e.ownOrigins = [e.origin])
    (h : Comment.Trimmed e.comment) : e.Commented := by
  rw [Commented, subterms, hinner, List.forall_mem_singleton, hown, List.forall_mem_singleton]
  exact h

theorem commented_list {o : Origin} {es : List Expr} :
    (list o es).Commented ↔ Comment.Trimmed o.comment ∧ ∀ e ∈ es, e.Commented := by
  simp only [Commented, subterms, inner, List.forall_mem_cons, mem_subtermsList, ownOrigins, origin]
  grind

theorem commented_function {o : Origin} {kind : CallKind} {name : String} {es : List Expr} :
    (function (.mk o kind name es)).Commented ↔
      Comment.Trimmed o.comment ∧ ∀ e ∈ es, e.Commented := by
  simp only [Commented, subterms, inner, List.forall_mem_cons, mem_subtermsList, ownOrigins, origin,
    Call.origin]
  grind

theorem commented_lambda {o : Origin} {e : Expr} :
    (lambda o e).Commented ↔ Comment.Trimmed o.comment ∧ e.Commented := by
  simp [Commented, subterms, inner, ownOrigins, origin]

theorem commented_unary {o : Origin} {op : UnaryOp} {e : Expr} :
    (unary o op e).Commented ↔ Comment.Trimmed o.comment ∧ e.Commented := by
  simp [Commented, subterms, inner, ownOrigins, origin]

theorem commented_binary {o : Origin} {op : BinaryOp} {l r : Expr} {p : Bool} :
    (binary o op l r p).Commented ↔ Comment.Trimmed o.comment ∧ l.Commented ∧ r.Commented := by
  simp only [Commented, subterms, inner, List.forall_mem_cons, List.cons_append, List.mem_append,
    ownOrigins, origin]
  grind

theorem commented_chain {o : Origin} {s : Ident} {cs : List Call} :
    (chain o s cs).Commented ↔ (Comment.Trimmed o.comment ∧ Comment.Trimmed s.origin.comment) ∧
      ∀ c ∈ cs, Comment.Trimmed c.origin.comment ∧ ∀ e ∈ c.args, e.Commented := by
  simp only [Commented, subterms, inner, List.forall_mem_cons, Call.mem_subtermsList, ownOrigins,
    List.forall_mem_map]
  grind

/-- The comment above an expression is one of those in it. -/
theorem Commented.comment {e : Expr} (h : e.Commented) : Comment.Trimmed e.comment := by
  refine h e (by simp [subterms]) e.origin ?_
  cases e <;> simp [ownOrigins, origin]

/-- Another comment above an expression leaves those further down as they are. -/
theorem Commented.withComment {e : Expr} (h : e.Commented) {c : Option Comment}
    (hc : Comment.Trimmed c) : (e.withComment c).Commented := by
  have hinner : (e.withComment c).inner = e.inner := by
    cases e with
    | function call => cases call; rfl
    | _ => rfl
  intro x hx
  rw [subterms, hinner] at hx
  rcases List.mem_cons.1 hx with rfl | hx
  · have hown := h e (by simp [subterms])
    intro o ho
    cases e with
    | chain =>
      -- the one node with more origins than its own: those of its calls stay
      simp only [Expr.withComment, ownOrigins, List.mem_cons] at ho hown
      rcases ho with rfl | ho
      · exact hc
      · exact hown o (.inr ho)
    | function call => cases call; simp_all [Expr.withComment, ownOrigins, origin, Call.origin]
    | _ => simp_all [Expr.withComment, ownOrigins, origin]
  · exact h x (List.mem_cons_of_mem _ hx)

/-- Parentheses with a trimmed comment keep all comments trimmed. -/
theorem Commented.inParens {e : Expr} (h : e.Commented) {c : Option Comment}
    (hc : Comment.Trimmed c) : (e.inParens c).Commented := by
  have hparen : ∀ x : Expr, x.Commented → x.parenthesize.Commented := by
    intro x hx
    cases x with
    | binary => exact commented_binary.2 (commented_binary.1 hx)
    | _ => exact hx
  unfold Expr.inParens
  split
  · exact hparen _ (h.withComment hc)
  · exact hparen _ h

/-- The comment at the front, wherever it is, is trimmed, and so are those that are left. -/
theorem Commented.takeLeadingComment {e : Expr} (h : e.Commented) :
    Comment.Trimmed e.takeLeadingComment.1 ∧ e.takeLeadingComment.2.Commented := by
  induction e using Expr.takeLeadingComment.induct with
  | case1 o op l r p c hc =>
    obtain ⟨ho, hsides⟩ := commented_binary.1 h
    simp only [Expr.takeLeadingComment, hc]
    exact ⟨hc ▸ ho, commented_binary.2 ⟨Comment.trimmed_none, hsides⟩⟩
  | case2 o op l r p hc _ _ _ ih =>
    -- without a comment of its own, a binary node gives the one at the front of its left operand
    obtain ⟨ho, hl, hr⟩ := commented_binary.1 h
    obtain ⟨hfront, hrest⟩ := ih hl
    simp only [Expr.takeLeadingComment, hc]
    exact ⟨hfront, commented_binary.2 ⟨ho, hrest, hr⟩⟩
  | case3 e hne =>
    rw [Expr.takeLeadingComment]
    · exact ⟨h.comment, h.withComment Comment.trimmed_none⟩
    · exact hne

/-- A fold at an operator with a trimmed comment keeps all comments trimmed. -/
theorem Commented.fold {l r : Expr} (hl : l.Commented) (hr : r.Commented) {t : Token}
    (ht : Comment.Trimmed t.comment) (op : BinaryOp) : (l.fold t op r).Commented := by
  obtain ⟨hfront, hrest⟩ := hl.takeLeadingComment
  exact commented_binary.2 ⟨trimmed_foldedOrigin hfront ht, hrest, hr⟩

end Expr

/-- The comments in the result of a run are trimmed. A climb passes on those of the expression it
starts from. -/
def Goal.Commented : Goal → Prop
  | operand _ e => e.Commented
  | climb _ _ l e => l.Commented → e.Commented
  | expression _ e => e.Commented
  | arguments _ _ es => ∀ e ∈ es, e.Commented
  | elements _ _ es => ∀ e ∈ es, e.Commented
  | calls _ cs => ∀ c ∈ cs, Comment.Trimmed c.origin.comment ∧ ∀ e ∈ c.args, e.Commented

section

variable [Regex.Engine]

/-- Whatever the grammar derives from known tokens has trimmed comments. -/
theorem Derives.commented {g : Goal} {c c' : Cursor} (h : Derives g c c') (hc : c.Scanned) :
    g.Commented := by
  induction h with
  | number | duration | string | reference | regex | boolean | star | name =>
    exact Expr.commented_leaf rfl rfl hc.1.comment
  | unary _ _ ih => exact Expr.commented_unary.2 ⟨hc.1.comment, ih hc.advance⟩
  | list _ _ ih => exact Expr.commented_list.2 ⟨hc.1.comment, ih hc.advance⟩
  | lambda _ _ _ ih => exact Expr.commented_lambda.2 ⟨hc.1.comment, ih hc.advance.advance⟩
  | paren _ _ _ ih => exact Expr.Commented.inParens (ih hc.advance) hc.1.comment
  | function _ _ _ ih => exact Expr.commented_function.2 ⟨hc.1.comment, ih hc.advance.advance⟩
  | chain _ _ ih =>
    exact Expr.commented_chain.2 ⟨⟨hc.1.comment, Comment.trimmed_none⟩, ih hc.advance⟩
  | stop => exact id
  | fold _ _ hr₀ hr _ ih₁ ih₂ ih₃ =>
    -- the comment that the new node takes off `l` is trimmed because all in `l` are
    intro hl
    have hc₁ := hr₀.scanned hc.advance
    have hright := ih₂ hc₁ (ih₁ hc.advance)
    exact ih₃ (hr.scanned hc₁) (hl.fold hright hc.1.comment _)
  | expression hl _ ih₁ ih₂ => exact ih₂ (hl.scanned hc) (ih₁ hc)
  | noArguments | noCalls => simp [Goal.Commented]
  | arguments _ _ ih => exact ih hc
  | last _ _ _ ih =>
    have he : Expr.Commented _ := ih hc
    simpa [Goal.Commented] using he
  | more he _ _ ih₁ ih₂ =>
    exact List.forall_mem_cons.2 ⟨ih₁ hc, ih₂ (he.scanned hc).advance⟩
  | call _ _ _ hes _ ih₁ ih₂ =>
    have hargs := hc.advance.advance.advance
    exact List.forall_mem_cons.2 ⟨⟨hc.1.comment, ih₁ hargs⟩, ih₂ (hes.scanned hargs)⟩

/-! ## Programs -/

/-- Every comment in a statement is trimmed. -/
def Statement.Commented (s : Statement) : Prop :=
  (∀ o ∈ s.ownOrigins, Comment.Trimmed o.comment) ∧
    ∀ e ∈ s.exprs, ∀ o ∈ e.ownOrigins, Comment.Trimmed o.comment

/-- A statement that is derived from known tokens has trimmed comments. -/
theorem DerivesStatement.commented {s : Statement} {c c' : Cursor} (h : DerivesStatement s c c')
    (hc : c.Scanned) : s.Commented := by
  cases h with
  | expr _ he => exact ⟨by simp [Statement.ownOrigins], he.commented hc⟩
  | value _ _ _ he =>
    refine ⟨?_, he.commented hc.advance.advance.advance⟩
    simpa [Statement.ownOrigins] using ⟨hc.1.comment, Comment.trimmed_none⟩
  | template _ _ _ =>
    refine ⟨?_, by simp [Statement.exprs]⟩
    simpa [Statement.ownOrigins] using ⟨hc.1.comment, Comment.trimmed_none⟩

/-- So have all statements of a program. -/
theorem DerivesStatements.commented {ss : List Statement} {c c' : Cursor}
    (h : DerivesStatements ss c c') (hc : c.Scanned) : ∀ s ∈ ss, s.Commented := by
  induction h with
  | nil => simp
  | cons _ hs _ ih =>
    obtain ⟨ts, ht, -⟩ := hs.account
    exact List.forall_mem_cons.2 ⟨hs.commented hc, ih (ht.scanned hc)⟩

/-- In a statement that was read every expression is regular, and its name is a name. -/
theorem Statement.Parsed.regular {s : Statement} (h : s.Parsed) :
    (∀ e ∈ s.exprs, e.Regular) ∧ ∀ name ∈ s.declaredName?, Lexer.IsName name := by
  match s with
  | .declare _ name (.value e) =>
    obtain ⟨-, hname, he⟩ := h
    refine ⟨he.wellFormed.regular he.normal, fun _ hn => ?_⟩
    cases hn
    exact hname.isName
  | .declare _ name (.template _) =>
    refine ⟨by simp [exprs], fun _ hn => ?_⟩
    cases hn
    exact h.2.isName
  | .expr e =>
    exact ⟨(Expr.Parsed.wellFormed h).regular (Expr.Parsed.normal h), by simp [declaredName?]⟩

end

namespace Program

/-- Every program that is read from a source is regular. -/
theorem regular_of_parse [Regex.Engine] {source : String} {p : Program} (h : parse source = .ok p) :
    p.Regular := by
  have hparsed := parsed h
  have hcommented : ∀ s ∈ p.statements, s.Commented := by
    obtain ⟨c₁, c₂, hds, hss, -⟩ := derives_program h
    exact hss.commented (hds.parsed (Cursor.scanned_tokenize source)).2
  have horigins : ∀ o ∈ p.origins, Comment.Trimmed o.comment := by
    intro o ho
    simp only [origins, exprs, List.mem_append, List.mem_map, List.mem_flatMap] at ho
    rcases ho with (⟨d, hd, rfl⟩ | ⟨s, hs, ho⟩) | ⟨e, ⟨s, hs, he⟩, ho⟩
    · exact hparsed.dbrps d hd
    · exact (hcommented s hs).1 o ho
    · exact (hcommented s hs).2 e he o ho
  have hcomments : ∀ lines ∈ p.comments, Comment.Trimmed (some lines) := by
    intro lines hlines
    rcases List.mem_append.1 hlines with hlines | hlines
    · obtain ⟨o, ho, hcomment⟩ := List.mem_filterMap.1 hlines
      exact hcomment ▸ horigins o ho
    · exact Option.mem_toList.1 hlines ▸ hparsed.trailing
  refine ⟨fun e he => ?_, fun s hs => (hparsed.statements s hs).regular.2, fun lines hlines => ?_⟩
  · obtain ⟨s, hs, he⟩ := List.mem_flatMap.1 he
    exact (hparsed.statements s hs).regular.1 e he
  · exact ⟨fun hnil => (hcomments lines hlines).nonempty (congrArg some hnil),
      (hcomments lines hlines).lines⟩

section Sample

attribute [local instance] Pattern.engine

/-- A comment in front of a product moves to the sum that it begins, where it is trimmed. -/
theorem regular_of_parse_sum : ∃ p, parse "// a \nx * 2 + 3.5" = .ok p ∧
    (p.exprs.length = 5 ∧ p.comments = [["a"]]) ∧ p.Regular := by
  have h : (match parse "// a \nx * 2 + 3.5" with
    | .ok p => decide (p.exprs.length = 5 ∧ p.comments = [["a"]])
    | .error _ => false) = true := by decide +kernel
  split at h
  · next p hp => exact ⟨p, hp, of_decide_eq_true h, regular_of_parse hp⟩
  · cases h

end Sample

end Program

end Tickscript
