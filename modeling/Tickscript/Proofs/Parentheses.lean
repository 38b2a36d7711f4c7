import Tickscript.Pattern.Limits
import Tickscript.Proofs.RereadPrograms
import Tickscript.Proofs.Rescanning

/-!
# Enough parentheses

The printer puts parentheses where the places of operands in the tree need them, whatever marks the
tree has for parentheses of its source. So every expression that can be written at all is read
again as the same expression up to such marks, unless it nests too deep
(`Expr.reader_render`).
-/

namespace Tickscript

open Lexer (Spells)

mutual

/-- The expression without marks for parentheses. -/
def Expr.eraseParens : Expr → Expr
  | .list o es => .list o (Expr.eraseParensList es)
  | .lambda o body => .lambda o body.eraseParens
  | .unary o op e => .unary o op e.eraseParens
  | .binary o op l r _ => .binary o op l.eraseParens r.eraseParens false
  | .function c => .function c.eraseParens
  | .chain o s cs => .chain o s (Call.eraseParensList cs)
  | e => e

/-- The call without marks for parentheses. -/
def Call.eraseParens : Call → Call
  | .mk o kind name args => .mk o kind name (Expr.eraseParensList args)

/-- The expressions without marks for parentheses. -/
def Expr.eraseParensList : List Expr → List Expr
  | [] => []
  | e :: es => e.eraseParens :: Expr.eraseParensList es

/-- The calls without marks for parentheses. -/
def Call.eraseParensList : List Call → List Call
  | [] => []
  | c :: cs => c.eraseParens :: Call.eraseParensList cs

end

attribute [simp] Expr.eraseParens Call.eraseParens Expr.eraseParensList Call.eraseParensList

/-- The mark that the place of an operand asks for is erased with the others. -/
theorem Expr.eraseParens_marked (parens : Bool) (e : Expr) :
    (e.marked parens).eraseParens = e.eraseParens := by
  unfold Expr.marked
  split
  · cases e <;> simp [Expr.parenthesize, Expr.eraseParens]
  · rfl

section

variable (f g : Origin → Origin)

mutual

/-- Erasing marks and changing places and comments may be done in any order. -/
theorem Expr.eraseParens_mapOrigins (e : Expr) :
    (e.mapOrigins f g).eraseParens = e.eraseParens.mapOrigins f g := by
  match e with
  | .number .. | .string .. | .duration .. | .regex .. | .bool .. | .star .. | .identifier ..
  | .reference .. => simp [Expr.mapOrigins, Expr.eraseParens]
  | .list _ es => simp [Expr.mapOrigins, Expr.eraseParens, Expr.eraseParensList_mapOrigins es]
  | .lambda _ b => simp [Expr.mapOrigins, Expr.eraseParens, b.eraseParens_mapOrigins]
  | .unary _ _ x => simp [Expr.mapOrigins, Expr.eraseParens, x.eraseParens_mapOrigins]
  | .binary _ _ l r _ =>
    simp [Expr.mapOrigins, Expr.eraseParens, l.eraseParens_mapOrigins, r.eraseParens_mapOrigins]
  | .function c => simp [Expr.mapOrigins, Expr.eraseParens, c.eraseParens_mapOrigins f]
  | .chain _ _ cs => simp [Expr.mapOrigins, Expr.eraseParens, Call.eraseParensList_mapOrigins cs]

theorem Call.eraseParens_mapOrigins (own : Origin → Origin) (c : Call) :
    (c.mapOrigins f g own).eraseParens = c.eraseParens.mapOrigins f g own := by
  match c with
  | .mk _ _ _ args =>
    simp [Call.mapOrigins, Call.eraseParens, Expr.eraseParensList_mapOrigins args]

theorem Expr.eraseParensList_mapOrigins (es : List Expr) :
    Expr.eraseParensList (Expr.mapOriginsList f g es) =
      Expr.mapOriginsList f g (Expr.eraseParensList es) := by
  match es with
  | [] => rfl
  | e :: es =>
    simp [Expr.mapOriginsList, Expr.eraseParensList, e.eraseParens_mapOrigins,
      Expr.eraseParensList_mapOrigins es]

theorem Call.eraseParensList_mapOrigins (cs : List Call) :
    Call.eraseParensList (Call.mapOriginsList f g cs) =
      Call.mapOriginsList f g (Call.eraseParensList cs) := by
  match cs with
  | [] => rfl
  | c :: cs =>
    simp [Call.mapOriginsList, Call.eraseParensList, c.eraseParens_mapOrigins g,
      Call.eraseParensList_mapOrigins cs]

end

end

/-- The comment of an origin as it is read after it was written, and nothing else. -/
def Origin.reread (o : Origin) : Origin := ⟨.start, Comment.reread o.comment⟩

mutual

/-- What comes back for an expression is the expression up to marks for parentheses. -/
theorem Expr.eraseParens_reread (e : Expr) :
    e.reread.eraseParens = e.eraseParens.mapOrigins .forget .reread := by
  match e with
  | .number .. | .string .. | .duration .. | .regex .. | .bool .. | .star .. | .identifier ..
  | .reference .. => rfl
  | .list _ es =>
    simp [Expr.mapOrigins, Expr.eraseParens, Expr.reread, Expr.eraseParens_rereadList es,
      Origin.forget]
  | .lambda _ b =>
    simp [Expr.mapOrigins, Expr.eraseParens, Expr.reread, b.eraseParens_reread, Origin.forget]
  | .unary _ _ x =>
    simp [Expr.mapOrigins, Expr.eraseParens, Expr.reread, Expr.eraseParens_marked,
      x.eraseParens_reread, Origin.forget]
  | .binary _ _ l r _ =>
    simp [Expr.mapOrigins, Expr.eraseParens, Expr.reread, Expr.eraseParens_marked,
      l.eraseParens_reread, r.eraseParens_reread, Origin.forget]
  | .function (.mk _ _ _ args) =>
    simp [Expr.mapOrigins, Call.mapOrigins, Expr.eraseParens, Call.eraseParens, Expr.reread,
      Call.reread, Expr.eraseParens_rereadList args, Origin.forget]
    rfl
  | .chain _ _ cs =>
    simp [Expr.mapOrigins, Expr.eraseParens, Expr.reread, Call.eraseParens_rereadList cs,
      Origin.forget]

/-- Reading the expressions again changes nothing but places, comments and marks. -/
theorem Expr.eraseParens_rereadList (es : List Expr) :
    Expr.eraseParensList (Expr.rereadList es) =
      Expr.mapOriginsList .forget .reread (Expr.eraseParensList es) := by
  match es with
  | [] => rfl
  | e :: es =>
    simp [Expr.mapOriginsList, Expr.eraseParensList, Expr.rereadList, e.eraseParens_reread,
      Expr.eraseParens_rereadList es]

theorem Call.eraseParens_rereadList (cs : List Call) :
    Call.eraseParensList (Call.rereadList cs) =
      Call.mapOriginsList .forget .reread (Call.eraseParensList cs) := by
  match cs with
  | [] => rfl
  | .mk _ _ _ args :: cs =>
    simp [Call.mapOriginsList, Call.mapOrigins, Call.eraseParensList, Call.eraseParens,
      Call.rereadList, Call.reread, Expr.eraseParens_rereadList args,
      Call.eraseParens_rereadList cs, Origin.reread, Call.origin]

end

/-- What comes back for an expression compares equal to it up to marks for parentheses. -/
theorem Expr.sameAs_of_reread {e e' : Expr} (h : e'.shape = e.reread) :
    e'.eraseParens.sameAs e.eraseParens = true := by
  rw [Expr.sameAs_iff]
  calc e'.eraseParens.core
      = e'.core.eraseParens := (e'.eraseParens_mapOrigins ..).symm
    _ = e'.shape.core.eraseParens := by rw [e'.core_shape]
    _ = e.reread.eraseParens.core := by rw [h]; exact e.reread.eraseParens_mapOrigins ..
    _ = (e.eraseParens.mapOrigins .forget .reread).core := by rw [e.eraseParens_reread]
    _ = e.eraseParens.core := e.eraseParens.mapOrigins_mapOrigins ..

/-- An expression with a literal for each of its values and with its regexes where they are found is
read again as the same expression, up to marks for parentheses, and nothing is left over. Only if
reading it takes more levels than there are does it fail, because nesting is too deep. -/
theorem Expr.reader_render [Regex.Engine] {e : Expr} (h : e.WellFormed Number.HasLiteral)
    (hopen : e.regexesOpen true = true) (width level : Nat) :
    match Expr.reader (.ofList (tokenize (e.render width level))) with
    | .ok e' c => e.need ≤ maxNesting ∧ c.current.kind = .eof ∧
        e'.eraseParens.sameAs e.eraseParens = true
    | .error x _ => maxNesting < e.need ∧ x.fault = .tooDeep maxNesting := by
  obtain ⟨c, hc, heof⟩ := e.scans h hopen width level
  have hend : e.endsBefore c.current.kind = true := by
    rw [heof]
    exact e.endsBefore_of_close rfl (by decide) rfl
  have hrun := ((e.reads h).operation width level).closed e.fitsMin_one hc hend
    (by rw [heof]; rfl) (b := maxNesting)
  rcases hrun with ⟨hneed, e', ⟨hshape, -⟩, hr⟩ | ⟨hneed, x, c', hr, hx⟩
  · rw [Expr.reader, hr]
    exact ⟨hneed, heof, sameAs_of_reread hshape⟩
  · rw [Expr.reader, hr]
    exact ⟨hneed, hx⟩

section Sample

attribute [local instance] Pattern.engine

/-- A tree without marks: the lambda on the left needs parentheses, and the chain on the right goes
over several lines, with a comment between them. -/
theorem Expr.reader_render_lambda :
    let e : Expr := .binary default .multiply (.lambda default (.identifier default "a"))
      (.chain default ⟨"stream", default⟩
        [.mk ⟨.start, some ["all"]⟩ .chain "from" [.regex default "a/b"]]) false
    e.WellFormed Number.HasLiteral ∧ e.regexesOpen true = true ∧
      match Expr.reader (.ofList (tokenize (e.render 4 0))) with
      | .ok e' c => e.need ≤ maxNesting ∧ c.current.kind = .eof ∧
          e'.eraseParens.sameAs e.eraseParens = true
      | .error x _ => maxNesting < e.need ∧ x.fault = .tooDeep maxNesting := by
  intro e
  have hname : ∀ name ∈ ["a", "from"], Spells .identifier name.toList := by
    simp only [List.forall_mem_cons, List.not_mem_nil, false_implies, implies_true, and_true]
    constructor <;>
      exact .word (by decide +kernel) (List.all_eq_true.1 (by decide +kernel)) rfl (by decide)
  have hpattern : Regex.IsPattern "a/b" :=
    ⟨"a\\/b".toList, ⟨rfl, by decide, by decide⟩, by decide +kernel⟩
  have hlines : Comment.HasLines (some ["all"]) := by
    intro line hline
    simp only [Option.getD_some, List.mem_singleton] at hline
    subst hline
    decide
  have h : e.WellFormed Number.HasLiteral :=
    ⟨hname "a" (by simp), .inr (.inl rfl), by decide, hlines,
      ⟨hname "from" (by simp), hpattern, trivial⟩, trivial⟩
  exact ⟨h, by decide, Expr.reader_render h (by decide) 4 0⟩

end Sample

end Tickscript
