import Tickscript.Pattern.Limits
import Tickscript.Proofs.Accounting
import Tickscript.Proofs.DerivedRuns
import Tickscript.Proofs.Rereading

/-!
# Where the comment above a statement goes

The comment above an expression is in front of its first token, and while the expression is read it
moves: every operator that is folded takes it off the operand on its left and puts its own lines
behind it, and a parenthesis gives it to the expression inside. Operators keep all lines.
Parentheses do not: an expression inside that has a comment of its own keeps that one, and the
comment in front of the parenthesis is dropped.

A tree has at most one comment in front, and that is the comment of its root (`Derives.ledBy`). So
what an operator takes off its left operand is what stands at the root there, and the comment of the
root is found by going once through the operators (`Derives.comment_climb`).
`Program.comment_reaches_root_iff` says for every expression statement of a program which lines its
root has, and exactly when they start with those in front of its first token.
-/

namespace Tickscript

open Cursor (Took)
open scoped List

/-! ## Operators -/

/-- The lines in front of some tokens. -/
def Token.commentLines (ts : List Token) : Comment := ts.flatMap (·.comment.getD [])

/-- The comment that an operand with the comment `k` has passed on behind some operators. -/
def Comment.through (k : Option Comment) (operators : List Token) : Option Comment :=
  operators.foldl (fun k t => (Expr.foldedOrigin k t).comment) k

/-- Once there is a comment, operators only put lines behind it. -/
theorem Comment.through_some (lines : Comment) (operators : List Token) :
    through (some lines) operators = some (lines ++ Token.commentLines operators) := by
  induction operators generalizing lines with
  | nil => simp [through, Token.commentLines]
  | cons t ts ih =>
    show through (some (lines ++ t.comment.getD [])) ts = _
    rw [ih, List.append_assoc]
    rfl

/-- The lines that an operand passes on are its own and those of the operators behind it. -/
theorem Comment.getD_through (k : Option Comment) (operators : List Token) :
    (through k operators).getD [] = k.getD [] ++ Token.commentLines operators := by
  induction operators generalizing k with
  | nil => simp [through, Token.commentLines]
  | cons t ts ih =>
    cases k with
    | none =>
      show (through t.comment ts).getD [] = _
      rw [ih]
      rfl
    | some lines => rw [through_some, Option.getD_some, Option.getD_some]

/-! ## One comment in front -/

/-- What a run for a goal keeps: the only comment in front of a tree is that of its root. -/
def Goal.LedBy : Goal → Prop
  | operand _ e => e.LedBy e.comment
  | climb _ _ l e => l.LedBy l.comment → e.LedBy e.comment
  | expression _ e => e.LedBy e.comment
  | _ => True

/-- The only comment in front of an expression is the one that its root has. -/
theorem Expr.LedBy.self {k : Option Comment} {e : Expr} (h : e.LedBy k) : e.LedBy e.comment :=
  h.comment_eq ▸ h

section Roots

variable [Regex.Engine]

/-- Every run for an expression leaves one comment in front at most, that of the root. -/
theorem Derives.ledBy {g : Goal} {c c' : Cursor} (h : Derives g c c') : g.LedBy := by
  induction h with
  | unary | number | duration | string | reference | regex | boolean | star | list | lambda
  | function | name | chain => rfl
  | paren _ _ _ ih => exact (Expr.LedBy.inParens ih _).self
  | stop => exact id
  | fold _ _ _ _ _ _ _ ih => exact fun hl => ih (hl.folded _ _ _).self
  | expression _ _ ih₁ ih₂ => exact ih₂ ih₁
  | noArguments | arguments | last | more | noCalls | call => trivial

/-- A climb passes the comment of what it starts with on through the operators that it folds. -/
theorem Derives.comment_climb {b min : Nat} {l e : Expr} {c c' : Cursor}
    (h : Derives (.climb b min l e) c c') (hl : l.LedBy l.comment) :
    ∃ ts operators, Took c ts c' ∧ operators <+ ts ∧
      (∀ t ∈ operators, (BinaryOp.ofKind? t.kind).isSome = true) ∧
      e.comment = Comment.through l.comment operators := by
  generalize hg : Goal.climb b min l e = g at h
  induction h generalizing b l with
  | stop =>
    cases hg
    exact ⟨[], [], .nil _, .refl _, by simp, rfl⟩
  | @fold c c₁ c₂ c' b min op l r₀ r e hop _ hr₀ hr _ _ _ ih =>
    cases hg
    have hnode := hl.folded c.current op r
    obtain ⟨ts, operators, ht, hsub, hops, hcomment⟩ := ih hnode.self rfl
    obtain ⟨ts₁, ht₁, -⟩ := hr₀.account
    obtain ⟨ts₂, ht₂, -⟩ := hr.account
    have hne : c.current.kind ≠ .eof := by intro h; simp [h, BinaryOp.ofKind?] at hop
    refine ⟨_, c.current :: operators, .cons hne (ht₁.append (ht₂.append ht)), ?_, ?_, ?_⟩
    · exact ((hsub.trans (List.sublist_append_right _ _)).trans
        (List.sublist_append_right _ _)).cons_cons _
    · exact List.forall_mem_cons.2 ⟨by rw [hop]; rfl, hops⟩
    · rw [hcomment, hnode.comment_eq]
      rfl
  | _ => cases hg

/-! ## The first token -/

/-- The comment that an expression in parentheses has of its own, if the parentheses open at `c`. -/
def Expr.innerComment? (budget : Nat) (c : Cursor) : Option Comment :=
  if c.current.kind = .lParen then
    match operation budget 1 c.advance with
    | .ok inner _ => inner.comment
    | .error _ _ => none
  else none

/-- Where no parenthesis opens, there is no comment of an inner expression. -/
theorem Expr.innerComment?_of_ne {b : Nat} {c : Cursor} {k : Kind} (hk : c.current.kind = k)
    (hne : k ≠ .lParen) : innerComment? b c = none := by
  rw [innerComment?, if_neg (hk ▸ hne)]

/-- An operand has the comment in front of its first token, unless that is a parenthesis around an
expression with a comment of its own. -/
theorem Derives.comment_operand {b : Nat} {e : Expr} {c c' : Cursor}
    (h : Derives (.operand (b + 1) e) c c') :
    e.comment = (Expr.innerComment? b c).or c.current.comment := by
  have hfirst : ∀ {k : Kind}, c.current.kind = k → k ≠ .lParen →
      (Expr.innerComment? b c).or c.current.comment = c.current.comment := by
    intro k hk hne
    rw [Expr.innerComment?_of_ne hk hne]
    rfl
  cases h with
  | unary hop =>
    refine (hfirst rfl ?_).symm
    intro hk
    simp [hk, UnaryOp.ofKind?] at hop
  | number hk | duration hk | string hk | reference hk | regex hk | boolean hk | star hk | list hk
  | lambda hk | function hk | name hk => exact (hfirst hk (by simp)).symm
  | chain hk =>
    refine (hfirst rfl ?_).symm
    rcases hk with h | h | h <;> simp [h]
  | paren hk he _ =>
    have hrun : Expr.operation b 1 c.advance = .ok _ _ := he.runs
    rw [Expr.innerComment?, if_pos hk, hrun]
    exact (Expr.LedBy.inParens he.ledBy _).comment_eq

/-- The root of an expression has the comment of its first operand, and behind it those of the
operators. -/
theorem Derives.comment_expression {b : Nat} {e : Expr} {c c' : Cursor}
    (h : Derives (.expression (b + 1) e) c c') :
    ∃ ts operators, Took c ts c' ∧ operators <+ ts ∧
      (∀ t ∈ operators, (BinaryOp.ofKind? t.kind).isSome = true) ∧
      e.comment =
        Comment.through ((Expr.innerComment? b c).or c.current.comment) operators := by
  cases h with
  | expression hl he =>
    obtain ⟨ts₁, ht₁, -⟩ := hl.account
    obtain ⟨ts₂, operators, ht₂, hsub, hops, hcomment⟩ := he.comment_climb hl.ledBy
    rw [hl.comment_operand] at hcomment
    exact ⟨ts₁ ++ ts₂, operators, ht₁.append ht₂,
      hsub.trans (List.sublist_append_right _ _), hops, hcomment⟩

/-! ## Programs -/

/-- The places where the statements from a place on start. -/
def Statement.starts : Nat → Cursor → List Cursor
  | 0, _ => []
  | rounds + 1, c =>
    if c.current.kind = .eof then []
    else
      match reader c with
      | .ok _ c' => c :: starts rounds c'
      | .error _ _ => []

/-- The places where the statements of a source start. -/
def Program.starts (source : String) : List Cursor :=
  let c := Cursor.ofList (tokenize source)
  match DbrpLine.many c.size c with
  | .ok _ c' => Statement.starts c'.size c'
  | .error _ _ => []

/-- Every statement is what is read from the place where it starts. -/
theorem DerivesStatements.starts {ss : List Statement} {c c' : Cursor}
    (h : DerivesStatements ss c c') {rounds : Nat} (hle : c.left ≤ rounds) :
    List.Forall₂ (fun d s => ∃ d', DerivesStatement s d d') (Statement.starts rounds c) ss := by
  induction h generalizing rounds with
  | nil hk =>
    cases rounds with
    | zero => exact .nil
    | succ rounds =>
      rw [Statement.starts, if_pos hk]
      exact .nil
  | cons hk hs _ ih =>
    have hlt := hs.left_lt
    obtain ⟨rounds, rfl⟩ : ∃ r, rounds = r + 1 := ⟨rounds - 1, by omega⟩
    rw [Statement.starts, if_neg hk, hs.runs]
    exact .cons ⟨_, hs⟩ (ih (by omega))

/-- Each statement of a program is read at one of the places where statements start. -/
theorem Program.derives_starts {source : String} {p : Program} (h : parse source = .ok p) :
    List.Forall₂ (fun c s => ∃ c', DerivesStatement s c c') (starts source) p.statements := by
  obtain ⟨c₁, c₂, hds, hss, -⟩ := derives_program h
  rw [starts, hds.runs (Cursor.left_le_size _)]
  exact hss.starts (Cursor.left_le_size _)

/-- What becomes of the comments in front of an expression `e` that is read from `c` to `c'`. Its
root has the lines in front of its first token or, if that is a parenthesis around an expression
with a comment of its own, the lines of that one instead; behind them come those of operators of
`e`. So the comment in front is found at the root exactly if it is not replaced, or is replaced by
what starts with the same lines. -/
def Expr.Headed (c c' : Cursor) (e : Expr) : Prop :=
  ∃ ts operators, Took c ts c' ∧ operators <+ ts ∧
    (∀ t ∈ operators, (BinaryOp.ofKind? t.kind).isSome = true) ∧
    e.comment.getD [] =
      ((innerComment? (maxNesting - 1) c).or c.current.comment).getD [] ++
        Token.commentLines operators ∧
    ∀ lines, c.current.comment = some lines →
      ((∃ more, e.comment = some (lines ++ more)) ↔
        ∀ own, innerComment? (maxNesting - 1) c = some own →
          lines <+: own ++ Token.commentLines operators)

/-- Every expression that is read is headed in this way. -/
theorem Derives.headed {e : Expr} {c c' : Cursor} (h : Derives (.expression maxNesting e) c c') :
    e.Headed c c' := by
  have h : Derives (.expression (maxNesting - 1 + 1) e) c c' := h
  obtain ⟨ts, operators, ht, hsub, hops, hcomment⟩ := h.comment_expression
  refine ⟨ts, operators, ht, hsub, hops, by rw [hcomment, Comment.getD_through], ?_⟩
  intro lines hlines
  rw [hlines] at hcomment
  cases hinner : Expr.innerComment? (maxNesting - 1) c with
  | none =>
    rw [hinner, Option.none_or, Comment.through_some] at hcomment
    simp [hcomment]
  | some own =>
    -- the comment in front has no part in the one at the root
    rw [hinner, Option.some_or, Comment.through_some] at hcomment
    rw [hcomment]
    constructor
    · rintro ⟨more, hmore⟩ _ ⟨⟩
      exact ⟨more, (Option.some.inj hmore).symm⟩
    · intro hprefix
      obtain ⟨more, hmore⟩ := hprefix own rfl
      exact ⟨more, by rw [hmore]⟩

/-- In every program that is read, each expression statement has at its root what was in front of
its first token, or of the expression inside its first parentheses. -/
theorem Program.comment_reaches_root_iff {source : String} {p : Program}
    (h : parse source = .ok p) :
    List.Forall₂ (fun c s => ∃ c', Statement.reader c = .ok s c' ∧
      ∀ e, s = .expr e → e.Headed c c') (starts source) p.statements := by
  refine (derives_starts h).imp ?_
  rintro c s ⟨c', hs⟩
  refine ⟨c', hs.runs, ?_⟩
  rintro e rfl
  cases hs with
  | expr _ he => exact he.headed

end Roots

section Sample

attribute [local instance] Pattern.engine

/-- The comment in front of a parenthesis is lost if there is another one behind it. -/
theorem Program.comment_reaches_root_iff_paren :
    let source := "// C\n(/* D */ a)"
    ∃ p, parse source = .ok p ∧ (starts source).map (·.current.comment) = [some ["C"]] ∧
      p.statements.map (·.origin.comment) = [some ["D"]] ∧
      List.Forall₂ (fun c s => ∃ c', Statement.reader c = .ok s c' ∧
        ∀ e, s = .expr e → e.Headed c c') (starts source) p.statements := by
  intro source
  have h : (match parse source with
    | .ok p => decide ((starts source).map (·.current.comment) = [some ["C"]] ∧
        p.statements.map (·.origin.comment) = [some ["D"]])
    | .error _ => false) = true := by decide +kernel
  split at h
  · next p hp =>
    obtain ⟨hstarts, hroot⟩ := of_decide_eq_true h
    exact ⟨p, hp, hstarts, hroot, comment_reaches_root_iff hp⟩
  · cases h

end Sample

end Tickscript
