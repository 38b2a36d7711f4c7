import Tickscript.Proofs.WellFormed

/-!
# What stands next to what

Facts about the row of pieces that is written for a tree, each by going through the tree once.
Every piece spells its token (`Expr.written_pieces`) and has a proper gap before it. Next to each
other, pieces keep apart (`Spaced`). And operands and operators alternate (`Orderly`): a slash that
is an operator stands behind an operand, with one blank before it, and a regex never stands there.
-/

namespace Tickscript

open Lexer (Spells KeepsApart)

/-! ## Texts -/

/-- A text that is written for a token of some kind. All of them spell it, except what is written
for infinity. -/
def Lexer.Written (k : Kind) (cs : List Char) : Prop :=
  Spells k cs ∨ k = .number ∧ cs = "inf.0".toList

/-- A number that has a literal is written as one. -/
theorem Number.IsLegal.written {v : Number} (h : v.IsLegal) :
    Lexer.Written .number v.render.toList := by
  by_cases hlit : v.HasLiteral
  · exact .inl hlit.spells
  · exact .inr ⟨rfl, by rw [Number.render_of_isLegal h hlit]⟩

/-- A name is no keyword. -/
theorem Lexer.Spells.wordKind_eq {name : String} (h : Spells .identifier name.toList) :
    wordKind name = .identifier := by
  generalize hcs : name.toList = cs at h
  cases h with
  | word _ _ hk _ => rwa [← hcs, String.ofList_toList] at hk
  | symbol h => simp [symbols] at h

/-- The name of a source spells the token of a name or of one of the two keywords. -/
theorem Ident.IsSource.spells {s : Ident} {calls : List Call} (h : s.IsSource calls) :
    Spells (Lexer.wordKind s.name) s.name.toList ∧
      Lexer.wordKind s.name ∈ [Kind.identifier, .stream, .batch] := by
  rcases h with ⟨h, -⟩ | h | h
  · rw [h.wordKind_eq]
    exact ⟨h, by decide⟩
  · rw [h]
    exact ⟨Lexer.spells_keyword (by decide), by decide⟩
  · rw [h]
    exact ⟨Lexer.spells_keyword (by decide), by decide⟩

theorem Trivia.formed_space : Formed space := .blank (by decide) .nil

theorem Trivia.formed_newline {g : List Trivia} (h : Formed g) : Formed (newline :: g) :=
  .blank (by decide) h

theorem Trivia.formed_indent (width level : Nat) : Formed (indent width level) := by
  unfold indent
  induction width * level with
  | zero => exact .nil
  | succ n ih => exact .blank (by decide) ih

/-- What is written for a comment is a gap of blanks and whole lines. -/
theorem Comment.formed_gap {comment : Option Comment} (h : HasLines comment) (width level : Nat) :
    Trivia.Formed (gap width level comment) := by
  unfold gap
  unfold HasLines at h
  generalize comment.getD [] = lines at h
  induction lines with
  | nil => exact .nil
  | cons line lines ih =>
    rw [List.flatMap_cons]
    refine .append (.append (Trivia.formed_indent width level) (.line ?_ .nil))
      (ih fun l hl => h l (by simp [hl]))
    split
    · simp
    · simpa using h line (by simp)

/-- A property that the gaps inside an expression have: there is nothing, a blank, or the end of a
line with the comment of a call. -/
structure Trivia.Inner (G : List Trivia → Prop) : Prop where
  nil : G []
  space : G space
  call : ∀ {comment : Option Comment}, Comment.HasLines comment → ∀ width level,
    G (newline :: Comment.gap width level comment ++ indent width level)

theorem Trivia.inner_formed : Inner Formed where
  nil := .nil
  space := formed_space
  call h width level :=
    formed_newline (.append (Comment.formed_gap h width level) (formed_indent width level))

section Texts

variable {ok : Number → Prop} {G : List Trivia → Prop} {P : Piece → Prop}

/-- What holds of every piece that has a gap in `G` and the text of a token, or of a number that is
`ok`. -/
structure Piece.Covers (ok : Number → Prop) (G : List Trivia → Prop) (P : Piece → Prop) :
    Prop where
  inner : Trivia.Inner G
  token : ∀ {g k cs}, G g → Spells k cs → P ⟨g, k, cs⟩
  number : ∀ {g v}, G g → ok v → P ⟨g, .number, v.render.toList⟩

/-- What is covered holds of parentheses, if it holds of what is between them. -/
theorem Piece.forall_enclosed (hP : Covers ok G P) {parens : Bool} {g : List Trivia}
    {inside : List Trivia → List Piece} (hg : G g) (h : ∀ g, G g → ∀ p ∈ inside g, P p) :
    ∀ p ∈ enclosed parens g inside, P p := by
  intro p hp
  unfold enclosed at hp
  split at hp
  · simp only [List.cons_append, List.mem_cons, List.mem_append, List.not_mem_nil, or_false] at hp
    rcases hp with rfl | hp | rfl
    · exact hP.token hg (.symbol (by decide))
    · exact h _ hP.inner.nil p hp
    · exact hP.token hP.inner.nil (.symbol (by decide))
  · exact h _ hg p hp

/-- And of the mark and the name of a call. -/
theorem CallKind.forall_lead (hP : Piece.Covers ok G P) {kind : CallKind} {g : List Trivia}
    {name : String} (hg : G g) (hname : Spells .identifier name.toList) :
    ∀ p ∈ kind.lead g name, P p := by
  have hmark : ∀ {k}, kind.kind? = some k → Spells k kind.mark.toList := by
    intro k hk
    cases kind <;> cases hk <;> exact .symbol (by decide)
  intro p hp
  unfold CallKind.lead at hp
  split at hp
  · simp only [List.mem_singleton] at hp
    exact hp ▸ hP.token hg hname
  · next mark hk =>
    simp only [List.mem_cons, List.not_mem_nil, or_false] at hp
    rcases hp with rfl | rfl
    · exact hP.token hg (hmark hk)
    · exact hP.token hP.inner.nil hname

variable [Regex.Engine]

mutual

/-- The pieces of a well-formed expression have proper gaps and texts, as far as its numbers do. -/
theorem Expr.forall_pieces (hP : Piece.Covers ok G P) {e : Expr} (h : e.WellFormed ok)
    (width level : Nat) {g : List Trivia} (hg : G g) : ∀ p ∈ e.pieces width level g, P p := by
  match e with
  | .number _ v => simpa [Expr.pieces] using hP.number hg h
  | .string _ v verbatim =>
    cases verbatim with
    | false => simpa [Expr.pieces] using hP.token hg (Quote.spells_string v)
    | true => simpa [Expr.pieces] using hP.token hg (Quote.spells_verbatim (h rfl))
  | .duration _ micros => simpa [Expr.pieces] using hP.token hg (Duration.spells_render micros)
  | .regex _ pattern => simpa [Expr.pieces] using hP.token hg (Regex.IsPattern.spells h)
  | .bool _ v =>
    have htrue : Spells .boolean "TRUE".toList := Lexer.spells_keyword (by decide)
    have hfalse : Spells .boolean "FALSE".toList := Lexer.spells_keyword (by decide)
    cases v
    · simpa [Expr.pieces] using hP.token hg hfalse
    · simpa [Expr.pieces] using hP.token hg htrue
  | .star _ =>
    have hstar : Spells .star ['*'] := .symbol (by decide)
    simpa [Expr.pieces] using hP.token hg hstar
  | .identifier _ name => simpa [Expr.pieces] using hP.token hg h
  | .reference _ name => simpa [Expr.pieces] using hP.token hg (Quote.spells_reference name)
  | .list _ es =>
    have hes : Expr.WellFormedList ok es := h
    have ih := Expr.forall_piecesList hP hes width level hP.inner.nil
    intro p hp
    simp only [Expr.pieces, List.cons_append, List.mem_cons, List.mem_append, List.not_mem_nil,
      or_false] at hp
    rcases hp with rfl | hp | rfl
    · exact hP.token hg (.symbol (by decide))
    · exact ih p hp
    · exact hP.token hP.inner.nil (.symbol (by decide))
  | .lambda _ body =>
    have ih := Expr.forall_pieces hP (e := body) h width level hP.inner.space
    intro p hp
    simp only [Expr.pieces, List.mem_cons] at hp
    rcases hp with rfl | rfl | hp
    · exact hP.token hg (Lexer.spells_keyword (by decide))
    · exact hP.token hP.inner.nil (.symbol (by decide))
    · exact ih p hp
  | .unary _ op x =>
    have ih := fun g hg => Expr.forall_pieces hP (e := x) h width level (g := g) hg
    intro p hp
    simp only [Expr.pieces, List.mem_cons] at hp
    rcases hp with rfl | hp
    · exact hP.token hg op.spells_symbol
    · exact Piece.forall_enclosed hP hP.inner.nil ih p hp
  | .binary _ op l r parenthesized =>
    have ihl := fun g hg => Expr.forall_pieces hP (e := l) h.1 width level (g := g) hg
    have ihr := fun g hg => Expr.forall_pieces hP (e := r) h.2 width level (g := g) hg
    rw [Expr.pieces]
    refine Piece.forall_enclosed hP hg fun g hg p hp => ?_
    simp only [List.mem_append, List.mem_cons] at hp
    rcases hp with hp | rfl | hp
    · exact Piece.forall_enclosed hP hg ihl p hp
    · exact hP.token hP.inner.space op.spells_symbol
    · exact Piece.forall_enclosed hP hP.inner.space ihr p hp
  | .function c => exact Call.forall_pieces hP (c := c) h.2 width level hg
  | .chain _ s cs =>
    have ih := Call.forall_piecesList hP h.2 width level
    intro p hp
    simp only [Expr.pieces, List.mem_cons] at hp
    rcases hp with rfl | hp
    · exact hP.token hg h.1.spells.1
    · exact ih p hp

/-- What holds of all pieces that may be written holds of those of a call. -/
theorem Call.forall_pieces (hP : Piece.Covers ok G P) {c : Call} (h : c.WellFormed ok)
    (width level : Nat) {g : List Trivia} (hg : G g) : ∀ p ∈ c.pieces width level g, P p := by
  match c with
  | .mk _ kind name args =>
    have ih := Expr.forall_piecesList hP h.2 width level hP.inner.nil
    intro p hp
    simp only [Call.pieces, List.append_assoc, List.cons_append, List.mem_append, List.mem_cons,
      List.not_mem_nil, or_false] at hp
    rcases hp with hp | rfl | hp | rfl
    · exact CallKind.forall_lead hP hg h.1 p hp
    · exact hP.token hP.inner.nil (.symbol (by decide))
    · exact ih p hp
    · exact hP.token hP.inner.nil (.symbol (by decide))

theorem Expr.forall_piecesList (hP : Piece.Covers ok G P) {es : List Expr}
    (h : Expr.WellFormedList ok es) (width level : Nat) {g : List Trivia} (hg : G g) :
    ∀ p ∈ Expr.piecesList width level g es, P p := by
  match es with
  | [] => simp [Expr.piecesList]
  | [e] => exact Expr.forall_pieces hP (e := e) h.1 width level hg
  | e :: e' :: es =>
    have ih := Expr.forall_pieces hP (e := e) h.1 width level hg
    have ihs := Expr.forall_piecesList hP h.2 width level hP.inner.space
    intro p hp
    simp only [Expr.piecesList, List.mem_append, List.mem_cons] at hp
    rcases hp with hp | rfl | hp
    · exact ih p hp
    · exact hP.token hP.inner.nil (.symbol (by decide))
    · exact ihs p hp

theorem Call.forall_piecesList (hP : Piece.Covers ok G P) {cs : List Call}
    (h : Call.WellFormedList ok cs) (width level : Nat) :
    ∀ p ∈ Call.piecesList width level cs, P p := by
  match cs with
  | [] => simp [Call.piecesList]
  | c :: cs =>
    have hgap : G (c.gap width (c.kind.level level)) := hP.inner.call h.2.1 ..
    have ih := Call.forall_pieces hP (c := c) h.2.2.1 width (c.kind.level level) hgap
    have ihs := Call.forall_piecesList hP h.2.2.2 width level
    intro p hp
    rcases List.mem_append.1 hp with hp | hp
    · exact ih p hp
    · exact ihs p hp

end

end Texts

section Numbers

variable {ok ok' : Number → Prop} {P : Piece → Prop}

/-- What holds of pieces in parentheses holds of those between them. -/
theorem Piece.inside_of_enclosed {parens : Bool} {g : List Trivia}
    {inside : List Trivia → List Piece} (h : ∀ p ∈ enclosed parens g inside, P p) :
    ∃ g, ∀ p ∈ inside g, P p := by
  cases parens with
  | true => exact ⟨[], fun p hp => h p (by simp [enclosed, hp])⟩
  | false => exact ⟨g, h⟩

variable [Regex.Engine]

mutual

/-- What is known of the pieces of a well-formed expression is known of its numbers. -/
theorem Expr.WellFormed.of_pieces (hnum : ∀ {g v}, ok v → P ⟨g, .number, v.render.toList⟩ → ok' v)
    {e : Expr} (h : e.WellFormed ok) {width level : Nat} {g : List Trivia}
    (hps : ∀ p ∈ e.pieces width level g, P p) : e.WellFormed ok' := by
  match e with
  | .number .. => exact hnum h (hps _ (List.mem_singleton.2 rfl))
  | .string .. | .duration .. | .regex .. | .identifier .. => exact h
  | .bool .. | .star .. | .reference .. => trivial
  | .list _ es =>
    have hes : ∀ p ∈ Expr.piecesList width level [] es, P p := fun p hp =>
      hps p (by simp [Expr.pieces, hp])
    have h : Expr.WellFormedList ok es := h
    exact h.of_pieces hnum hes
  | .lambda _ body =>
    have hbody : ∀ p ∈ body.pieces width level Trivia.space, P p := fun p hp =>
      hps p (by simp [Expr.pieces, hp])
    exact Expr.WellFormed.of_pieces hnum (e := body) h hbody
  | .unary _ op x =>
    obtain ⟨g', hin⟩ := Piece.inside_of_enclosed fun p hp => hps p (List.mem_cons_of_mem _ hp)
    exact Expr.WellFormed.of_pieces hnum (e := x) h hin
  | .binary _ op l r p =>
    obtain ⟨g', hin⟩ := Piece.inside_of_enclosed hps
    obtain ⟨gl, hl⟩ := Piece.inside_of_enclosed fun p hp =>
      hin p (List.mem_append_left _ hp)
    obtain ⟨gr, hr⟩ := Piece.inside_of_enclosed fun p hp =>
      hin p (List.mem_append_right _ (List.mem_cons_of_mem _ hp))
    exact ⟨h.1.of_pieces hnum hl, h.2.of_pieces hnum hr⟩
  | .function c => exact ⟨h.1, h.2.of_pieces hnum hps⟩
  | .chain _ s cs =>
    have hcs : ∀ p ∈ Call.piecesList width level cs, P p := fun p hp =>
      hps p (List.mem_cons_of_mem _ hp)
    exact ⟨h.1, h.2.of_pieces hnum hcs⟩

/-- What is known of the pieces of a call is known of its numbers. -/
theorem Call.WellFormed.of_pieces (hnum : ∀ {g v}, ok v → P ⟨g, .number, v.render.toList⟩ → ok' v)
    {c : Call} (h : c.WellFormed ok) {width level : Nat} {g : List Trivia}
    (hps : ∀ p ∈ c.pieces width level g, P p) : c.WellFormed ok' := by
  match c with
  | .mk _ kind name args =>
    have hargs : ∀ p ∈ Expr.piecesList width level [] args, P p := fun p hp =>
      hps p (by simp [Call.pieces, hp])
    exact ⟨h.1, h.2.of_pieces hnum hargs⟩

theorem Expr.WellFormedList.of_pieces
    (hnum : ∀ {g v}, ok v → P ⟨g, .number, v.render.toList⟩ → ok' v)
    {es : List Expr} (h : Expr.WellFormedList ok es) {width level : Nat} {g : List Trivia}
    (hps : ∀ p ∈ Expr.piecesList width level g es, P p) : Expr.WellFormedList ok' es := by
  match es with
  | [] => trivial
  | [e] => exact ⟨h.1.of_pieces hnum hps, trivial⟩
  | e :: e' :: es =>
    have hes : ∀ p ∈ Expr.piecesList width level Trivia.space (e' :: es), P p := fun p hp =>
      hps p (List.mem_append_right _ (List.mem_cons_of_mem _ hp))
    exact ⟨h.1.of_pieces hnum fun p hp => hps p (List.mem_append_left _ hp),
      h.2.of_pieces hnum hes⟩

theorem Call.WellFormedList.of_pieces
    (hnum : ∀ {g v}, ok v → P ⟨g, .number, v.render.toList⟩ → ok' v)
    {cs : List Call} (h : Call.WellFormedList ok cs) {width level : Nat}
    (hps : ∀ p ∈ Call.piecesList width level cs, P p) : Call.WellFormedList ok' cs := by
  match cs with
  | [] => trivial
  | c :: cs =>
    have hcs : ∀ p ∈ Call.piecesList width level cs, P p := fun p hp =>
      hps p (List.mem_append_right _ hp)
    exact ⟨h.1, h.2.1, h.2.2.1.of_pieces hnum fun p hp => hps p (List.mem_append_left _ hp),
      h.2.2.2.of_pieces hnum hcs⟩

end

end Numbers

/-- Numbers that have literals are legal, so an expression with such numbers is. -/
theorem Expr.WellFormed.isLegal [Regex.Engine] {e : Expr} (h : e.WellFormed Number.HasLiteral) :
    e.WellFormed Number.IsLegal :=
  have hps : ∀ p ∈ e.pieces 0 0 [], True := fun _ _ => trivial
  h.of_pieces (fun hv _ => hv.isLegal) hps

/-- The pieces of a well-formed expression are written as they should be. -/
theorem Expr.written_pieces [Regex.Engine] {e : Expr} (h : e.WellFormed Number.IsLegal)
    (width level : Nat) {g : List Trivia} (hg : Trivia.Formed g) :
    ∀ p ∈ e.pieces width level g, Trivia.Formed p.gap ∧ Lexer.Written p.kind p.text :=
  Expr.forall_pieces ⟨Trivia.inner_formed, fun hg hk => ⟨hg, .inl hk⟩,
    fun hg hv => ⟨hg, hv.written⟩⟩ h width level hg

/-! ## First pieces -/

/-- The kinds of tokens that an expression starts with. -/
def Kind.startsExpr (k : Kind) : Bool :=
  Expr.startsPrimary k || (UnaryOp.ofKind? k).isSome

/-- A row of pieces starts like an expression, with `g` in front of it. -/
def Starts (g : List Trivia) (ps : List Piece) : Prop :=
  ∃ p qs, ps = p :: qs ∧ p.gap = g ∧ p.kind.startsExpr = true

/-- Pieces that start an expression go on doing so, whatever comes behind them. -/
theorem Starts.append {g : List Trivia} {ps : List Piece} (h : Starts g ps) (qs : List Piece) :
    Starts g (ps ++ qs) := by
  obtain ⟨p, rs, rfl, hg, hk⟩ := h
  exact ⟨p, rs ++ qs, rfl, hg, hk⟩

/-- Parentheses start with the first gap of what is in them. -/
theorem Piece.starts_enclosed {parens : Bool} {g : List Trivia}
    {inside : List Trivia → List Piece} (h : Starts g (inside g)) :
    Starts g (enclosed parens g inside) := by
  unfold enclosed
  split
  · exact ⟨_, _, rfl, rfl, rfl⟩
  · exact h

/-- The kind of the first token of a written expression. -/
def Expr.firstKind : Expr → Kind
  | .number .. => .number
  | .string .. => .string
  | .duration .. => .duration
  | .regex .. => .regex
  | .bool .. => .boolean
  | .star .. => .star
  | .list .. => .lBracket
  | .identifier .. => .identifier
  | .reference .. => .reference
  | .lambda .. => .lambda
  | .unary _ op _ => op.kind
  | .binary _ op l _ parenthesized =>
    if parenthesized || l.needsParens fun p => op.precedence ≤ p then .lParen else l.firstKind
  | .function .. => .identifier
  | .chain _ s _ => Lexer.wordKind s.name

section

variable [Regex.Engine]

/-- What stands in front of an expression does not matter behind its first piece. -/
theorem Expr.pieces_eq_cons {ok : Number → Prop} {e : Expr} (h : e.WellFormed ok)
    (width level : Nat) : ∃ cs ps, ∀ g, e.pieces width level g = ⟨g, e.firstKind, cs⟩ :: ps := by
  match e with
  | .number .. | .string .. | .duration .. | .regex .. | .bool .. | .star .. | .identifier ..
  | .reference .. | .list .. | .lambda .. | .unary .. | .chain .. => exact ⟨_, _, fun _ => rfl⟩
  | .binary _ op l r p =>
    obtain ⟨cs, ps, hpieces⟩ := Expr.pieces_eq_cons (e := l) h.1 width level
    cases p with
    | true => exact ⟨_, _, fun _ => rfl⟩
    | false =>
      cases hparens : l.needsParens fun p => op.precedence ≤ p with
      | true => simp [Expr.pieces, Piece.enclosed, hparens, Expr.firstKind]
      | false => simp [Expr.pieces, Piece.enclosed, hparens, Expr.firstKind, hpieces]
  | .function (.mk _ kind name args) =>
    obtain ⟨hkind, -⟩ := h
    have hkind : kind = .global := hkind
    subst hkind
    exact ⟨_, _, fun _ => rfl⟩

/-- The first token of what is written for an expression can start one. -/
theorem Expr.startsExpr_firstKind {ok : Number → Prop} {e : Expr} (h : e.WellFormed ok) :
    e.firstKind.startsExpr = true := by
  match e with
  | .number .. | .string .. | .duration .. | .regex .. | .bool .. | .star .. | .identifier ..
  | .reference .. | .list .. | .lambda .. | .function .. => rfl
  | .unary _ op x => cases op <;> rfl
  | .binary _ op l r p =>
    rw [Expr.firstKind]
    split
    · rfl
    · exact Expr.startsExpr_firstKind (e := l) h.1
  | .chain _ s cs =>
    have hk := h.1.spells.2
    simp only [List.mem_cons, List.not_mem_nil, or_false] at hk
    rcases hk with h | h | h <;> rw [Expr.firstKind, h] <;> rfl

/-- What is written for an expression starts with its gap and a token that can start one. -/
theorem Expr.starts_pieces {ok : Number → Prop} {e : Expr} (h : e.WellFormed ok)
    (width level : Nat) (g : List Trivia) : Starts g (e.pieces width level g) := by
  obtain ⟨cs, ps, hpieces⟩ := e.pieces_eq_cons h width level
  exact ⟨_, _, hpieces g, rfl, e.startsExpr_firstKind h⟩

end

/-! ## Keeping apart -/

/-- Whatever is written ends before these characters. -/
theorem Lexer.endsBefore_of_mem {c : Char} (hc : c ∈ [' ', '\n', ')', ']', ',']) (k : Kind) :
    endsBefore k c = true := by
  have h₁ : isNamePart c = false := eq_false_of_all (by decide +kernel) hc
  have h₂ : isNumberPart c = false := eq_false_of_all (by decide) hc
  simp only [List.mem_cons, List.not_mem_nil, or_false] at hc
  cases k <;> simp only [endsBefore, h₁, h₂, Bool.not_false] <;>
    rcases hc with rfl | rfl | rfl | rfl | rfl <;> rfl

/-- A text before which everything ends. -/
def Bounds (after : List Char) : Prop := ∀ c ∈ after.head?, c ∈ [' ', '\n', ')', ']', ',']

theorem Bounds.keepsApart {after : List Char} (h : Bounds after) (k : Kind) : KeepsApart k after :=
  fun c hc => Lexer.endsBefore_of_mem (h c hc) k

/-- Blanks, closing marks and commas end any token before them. -/
theorem bounds_cons {c : Char} (hc : c ∈ [' ', '\n', ')', ']', ',']) (cs : List Char) :
    Bounds (c :: cs) := by
  intro d hd
  cases hd
  exact hc

/-- Each piece keeps apart from what follows it. -/
def Spaced : List Piece → List Char → Prop
  | [], _ => True
  | p :: ps, after => KeepsApart p.kind (Piece.sourceOf ps ++ after) ∧ Spaced ps after

/-- Pieces are kept apart if those in front are, from what follows, and those behind are. -/
theorem spaced_append {ps qs : List Piece} {after : List Char} :
    Spaced (ps ++ qs) after ↔ Spaced ps (Piece.sourceOf qs ++ after) ∧ Spaced qs after := by
  induction ps with
  | nil => simp [Spaced]
  | cons p ps ih => simp [Spaced, ih, and_assoc]

theorem Spaced.single {p : Piece} {after : List Char} (h : Bounds after) : Spaced [p] after :=
  ⟨h.keepsApart _, trivial⟩

/-- Pieces that start with a space end any token before them. -/
theorem Starts.bounds {ps : List Piece} (h : Starts Trivia.space ps) (after : List Char) :
    Bounds (Piece.sourceOf ps ++ after) := by
  obtain ⟨p, qs, rfl, hg, -⟩ := h
  rw [Piece.sourceOf_cons, hg]
  exact bounds_cons (c := ' ') (by decide) _

/-- Parentheses keep apart what is kept apart without them. -/
theorem Piece.spaced_enclosed {parens : Bool} {g : List Trivia} {inside : List Trivia → List Piece}
    {after : List Char} (hafter : Bounds after)
    (h : ∀ g after, Bounds after → Spaced (inside g) after) :
    Spaced (enclosed parens g inside) after := by
  unfold enclosed
  split
  · refine ⟨fun _ _ => rfl, spaced_append.2 ⟨h _ _ ?_, .single hafter⟩⟩
    exact bounds_cons (by decide) after
  · exact h _ _ hafter

/-- The mark and the name of a call are kept apart from the arguments. -/
theorem CallKind.spaced_lead (kind : CallKind) (g : List Trivia) (name : String)
    (after : List Char) : Spaced (kind.lead g name) ('(' :: after) := by
  have hname : KeepsApart .identifier ('(' :: after) := by
    intro c hc
    cases hc
    decide +kernel
  cases kind with
  | global => exact ⟨hname, trivial⟩
  | _ => exact ⟨fun _ _ => rfl, hname, trivial⟩

/-- A prefix operator keeps apart from an operand, which starts with no operator of two
characters. -/
theorem UnaryOp.keepsApart (op : UnaryOp) {p : Piece} {ps : List Piece} {after : List Char}
    (hgap : p.gap = []) (hp : Lexer.Written p.kind p.text)
    (hk : p.kind ∉ [Kind.assign, .eqEq, .regexEq]) :
    KeepsApart op.kind (Piece.sourceOf (p :: ps) ++ after) := by
  have hhead : ∀ c ∈ p.text.head?, c ≠ '=' ∧ c ≠ '~' := by
    rcases hp with hp | ⟨-, hp⟩
    · exact hp.head_ne hk
    · rw [hp]
      intro c hc
      cases hc
      decide
  have hne : p.text ≠ [] := by
    rcases hp with hp | ⟨-, hp⟩
    · exact hp.ne_nil
    · rw [hp]; decide
  intro c hc
  obtain ⟨d, ds, htext⟩ := List.exists_cons_of_ne_nil hne
  rw [Piece.sourceOf_cons, hgap, htext] at hc
  cases hc
  obtain ⟨h₁, h₂⟩ := hhead c (by rw [htext]; rfl)
  cases op <;> simp [UnaryOp.kind, Lexer.endsBefore, h₁, h₂]

section

variable [Regex.Engine]

mutual

/-- The pieces of an expression keep apart from each other and from what everything keeps apart
from. -/
theorem Expr.spaced_pieces {e : Expr} (h : e.WellFormed Number.IsLegal) (width level : Nat)
    (g : List Trivia) {after : List Char} (hafter : Bounds after) :
    Spaced (e.pieces width level g) after := by
  match e with
  | .number .. | .string .. | .duration .. | .regex .. | .bool .. | .star .. | .identifier ..
  | .reference .. => exact .single hafter
  | .list _ es =>
    have ih := @Expr.spaced_piecesList es h width level [] _
      (bounds_cons (c := ']') (by decide) after)
    exact ⟨fun _ _ => rfl, spaced_append.2 ⟨ih, .single hafter⟩⟩
  | .lambda _ body =>
    refine ⟨?_, fun _ _ => rfl, Expr.spaced_pieces (e := body) h width level _ hafter⟩
    intro c hc
    cases hc
    have : Lexer.endsBefore .lambda ':' = true := by decide +kernel
    exact this
  | .unary _ op x =>
    have ih := fun g after hafter => @Expr.spaced_pieces x h width level g after hafter
    refine ⟨?_, Piece.spaced_enclosed hafter ih⟩
    obtain ⟨p, qs, hpieces, hgap, hstart⟩ := @Piece.starts_enclosed
      (x.needsParens fun _ => false) _ (fun g => x.pieces width level g)
      (Expr.starts_pieces (e := x) h width level [])
    have hwritten := Expr.written_pieces (e := .unary default op x) h width level .nil p
    rw [hpieces]
    -- no gap is written behind the operator, so the operand must not begin like the rest of a
    -- longer one
    refine op.keepsApart hgap (hwritten ?_).2 ?_
    · rw [Expr.pieces, hpieces]
      simp
    · intro hk
      simp only [List.mem_cons, List.not_mem_nil, or_false] at hk
      rcases hk with hk | hk | hk <;> rw [hk] at hstart <;> cases hstart
  | .binary _ op l r p =>
    have ihl := fun g after hafter => @Expr.spaced_pieces l h.1 width level g after hafter
    have ihr := fun g after hafter => @Expr.spaced_pieces r h.2 width level g after hafter
    refine Piece.spaced_enclosed hafter fun g after hafter => spaced_append.2 ⟨?_, ?_, ?_⟩
    · exact Piece.spaced_enclosed (bounds_cons (c := ' ') (by decide) _) ihl
    · refine Bounds.keepsApart ?_ _
      exact (Piece.starts_enclosed (Expr.starts_pieces (e := r) h.2 width level _)).bounds after
    · exact Piece.spaced_enclosed hafter ihr
  | .function c => exact Call.spaced_pieces (c := c) h.2 width level g hafter
  | .chain _ s cs =>
    obtain ⟨ih, hbounds⟩ := @Call.spaced_piecesList cs h.2 width level after hafter
    exact ⟨hbounds.keepsApart _, ih⟩

/-- The pieces of a call are kept apart from each other and from what follows. -/
theorem Call.spaced_pieces {c : Call} (h : c.WellFormed Number.IsLegal) (width level : Nat)
    (g : List Trivia) {after : List Char} (hafter : Bounds after) :
    Spaced (c.pieces width level g) after := by
  match c with
  | .mk _ kind name args =>
    have ih := @Expr.spaced_piecesList args h.2 width level [] _
      (bounds_cons (c := ')') (by decide) after)
    rw [Call.pieces, List.append_assoc]
    exact spaced_append.2 ⟨kind.spaced_lead g name _, fun _ _ => rfl,
      spaced_append.2 ⟨ih, .single hafter⟩⟩

theorem Expr.spaced_piecesList {es : List Expr} (h : Expr.WellFormedList Number.IsLegal es)
    (width level : Nat) (g : List Trivia) {after : List Char} (hafter : Bounds after) :
    Spaced (Expr.piecesList width level g es) after := by
  match es with
  | [] => trivial
  | [e] => exact Expr.spaced_pieces (e := e) h.1 width level g hafter
  | e :: e' :: es =>
    have ih := Expr.spaced_pieces (e := e) h.1 width level g
      (bounds_cons (c := ',') (by decide)
        (Piece.sourceOf (Expr.piecesList width level Trivia.space (e' :: es)) ++ after))
    have ihs := @Expr.spaced_piecesList (e' :: es) h.2 width level Trivia.space after hafter
    exact spaced_append.2 ⟨ih, fun _ _ => rfl, ihs⟩

theorem Call.spaced_piecesList {cs : List Call} (h : Call.WellFormedList Number.IsLegal cs)
    (width level : Nat) {after : List Char} (hafter : Bounds after) :
    Spaced (Call.piecesList width level cs) after ∧
      Bounds (Piece.sourceOf (Call.piecesList width level cs) ++ after) := by
  match cs with
  | [] => exact ⟨trivial, hafter⟩
  | c :: cs =>
    obtain ⟨ihs, hbounds⟩ := @Call.spaced_piecesList cs h.2.2.2 width level after hafter
    have ih := Call.spaced_pieces (c := c) h.2.2.1 width (c.kind.level level)
      (c.gap width (c.kind.level level)) hbounds
    refine ⟨spaced_append.2 ⟨ih, ihs⟩, ?_⟩
    rw [Call.piecesList, Piece.sourceOf_append, c.sourceOf_pieces]
    exact bounds_cons (c := '\n') (by decide) _

end

end

/-! ## Operands and operators -/

/-- Whether an operand has just ended, after a piece. A star is an operator behind an operand with
one blank between, and otherwise an operand. -/
def Piece.endsOperand (before : Bool) (p : Piece) : Bool :=
  match p.kind with
  | .number | .duration | .string | .reference | .regex | .boolean | .identifier | .stream | .batch
  | .rParen | .rBracket => true
  | .star => !(before && p.gap == Trivia.space)
  | _ => false

/-- Slashes and regexes stand where they should: a slash behind an operand, a regex not. -/
def Orderly (before : Bool) : List Piece → Prop
  | [] => True
  | p :: ps =>
    (p.kind = .slash → before = true ∧ p.gap = Trivia.space) ∧
      (p.kind = .regex → p.gap = Trivia.space → before = false) ∧
      Orderly (p.endsOperand before) ps

/-- Pieces in order, behind which an operand has ended or not. -/
def OrderlyTo (before : Bool) (ps : List Piece) (after : Bool) : Prop :=
  Orderly before ps ∧ ps.foldl Piece.endsOperand before = after

namespace OrderlyTo

variable {before between after : Bool} {p : Piece} {ps qs : List Piece}

/-- Pieces in order behind pieces in order are in order. -/
theorem append (h : OrderlyTo before ps between) (h' : OrderlyTo between qs after) :
    OrderlyTo before (ps ++ qs) after := by
  induction ps generalizing before with
  | nil =>
    obtain ⟨-, rfl⟩ := h
    exact h'
  | cons p ps ih =>
    obtain ⟨⟨h₁, h₂, h₃⟩, h₄⟩ := h
    obtain ⟨ih₁, ih₂⟩ := ih ⟨h₃, h₄⟩
    exact ⟨⟨h₁, h₂, ih₁⟩, ih₂⟩

/-- A piece that is neither a slash nor a regex. -/
theorem cons (hs : p.kind ≠ .slash) (hr : p.kind ≠ .regex)
    (h : OrderlyTo (p.endsOperand before) ps after) : OrderlyTo before (p :: ps) after :=
  ⟨⟨fun h => absurd h hs, fun h => absurd h hr, h.1⟩, h.2⟩

end OrderlyTo

/-- What is in order behind any gap is in order in parentheses. -/
theorem Piece.orderly_enclosed {parens before : Bool} {g : List Trivia}
    {inside : List Trivia → List Piece} (hg : before = false ∨ g ≠ Trivia.space)
    (h : ∀ before g, before = false ∨ g ≠ Trivia.space → OrderlyTo before (inside g) true) :
    OrderlyTo before (enclosed parens g inside) true := by
  unfold enclosed
  split
  · refine .cons (by simp) (by simp) ((h _ _ (.inl rfl)).append (.cons (by simp) (by simp) ?_))
    exact ⟨trivial, rfl⟩
  · exact h _ _ hg

/-- A binary operator stands behind an operand, and its right operand behind none. -/
theorem BinaryOp.orderly (op : BinaryOp) {ps : List Piece} {after : Bool}
    (h : OrderlyTo false ps after) :
    OrderlyTo true (⟨Trivia.space, op.kind, op.symbol.toList⟩ :: ps) after := by
  cases op
  case divide => exact ⟨⟨by simp, by simp [BinaryOp.kind], h.1⟩, h.2⟩
  all_goals exact .cons (by simp [BinaryOp.kind]) (by simp [BinaryOp.kind]) h

variable [Regex.Engine]

mutual

/-- In the pieces of an expression operands and operators alternate, and an operand comes last. -/
theorem Expr.orderly_pieces {ok : Number → Prop} {e : Expr} (h : e.WellFormed ok)
    (width level : Nat) (before : Bool) (g : List Trivia)
    (hg : before = false ∨ g ≠ Trivia.space) : OrderlyTo before (e.pieces width level g) true := by
  match e with
  | .number .. | .string .. | .duration .. | .bool .. | .identifier .. | .reference .. =>
    exact .cons (by simp) (by simp) ⟨trivial, rfl⟩
  | .regex .. =>
    refine ⟨⟨by simp, fun _ hspace => ?_, trivial⟩, rfl⟩
    exact hg.resolve_right fun h => h hspace
  | .star .. =>
    refine .cons (by simp) (by simp) ⟨trivial, ?_⟩
    rcases hg with rfl | hg <;> simp_all [Piece.endsOperand]
  | .list _ es =>
    exact .cons (by simp) (by simp) ((@Expr.orderly_piecesList ok es h width level []).append
      (.cons (by simp) (by simp) ⟨trivial, rfl⟩))
  | .lambda _ body =>
    exact .cons (by simp) (by simp) (.cons (by simp) (by simp)
      (Expr.orderly_pieces (e := body) h width level _ _ (.inl rfl)))
  | .unary _ op x =>
    have ih := fun before g hg => Expr.orderly_pieces (e := x) h width level before g hg
    refine .cons (by cases op <;> simp [UnaryOp.kind]) (by cases op <;> simp [UnaryOp.kind]) ?_
    exact Piece.orderly_enclosed (.inr (by simp [Trivia.space])) ih
  | .binary _ op l r p =>
    have ihl := fun before g hg => Expr.orderly_pieces (e := l) h.1 width level before g hg
    have ihr := fun before g hg => Expr.orderly_pieces (e := r) h.2 width level before g hg
    refine Piece.orderly_enclosed hg fun before g hg => ?_
    exact (Piece.orderly_enclosed hg ihl).append
      (op.orderly (Piece.orderly_enclosed (.inl rfl) ihr))
  | .function c => exact Call.orderly_pieces (c := c) h.2 width level before g
  | .chain _ s cs =>
    have ih := @Call.orderly_piecesList ok cs h.2 width level
    have hk := h.1.spells.2
    simp only [List.mem_cons, List.not_mem_nil, or_false] at hk
    refine .cons (by rcases hk with h | h | h <;> simp [h])
      (by rcases hk with h | h | h <;> simp [h]) ?_
    have hends : Piece.endsOperand before ⟨g, Lexer.wordKind s.name, s.name.toList⟩ = true := by
      rcases hk with h | h | h <;> simp [Piece.endsOperand, h]
    rwa [hends]

/-- The pieces of a call are in order. -/
theorem Call.orderly_pieces {ok : Number → Prop} {c : Call} (h : c.WellFormed ok)
    (width level : Nat) (before : Bool) (g : List Trivia) :
    OrderlyTo before (c.pieces width level g) true := by
  match c with
  | .mk _ kind name args =>
    have hlead : OrderlyTo before (kind.lead g name) true := by
      cases kind with
      | global => exact .cons (by simp) (by simp) ⟨trivial, rfl⟩
      | _ => exact .cons (by simp) (by simp) (.cons (by simp) (by simp) ⟨trivial, rfl⟩)
    rw [Call.pieces, List.append_assoc]
    exact hlead.append (.cons (by simp) (by simp)
      ((@Expr.orderly_piecesList ok args h.2 width level []).append
        (.cons (by simp) (by simp) ⟨trivial, rfl⟩)))

theorem Expr.orderly_piecesList {ok : Number → Prop} {es : List Expr}
    (h : Expr.WellFormedList ok es) (width level : Nat) (g : List Trivia) :
    OrderlyTo false (Expr.piecesList width level g es) (!es.isEmpty) := by
  match es with
  | [] => exact ⟨trivial, rfl⟩
  | [e] => exact Expr.orderly_pieces (e := e) h.1 width level _ _ (.inl rfl)
  | e :: e' :: es =>
    have ih := Expr.orderly_pieces (e := e) h.1 width level false g (.inl rfl)
    have ihs := @Expr.orderly_piecesList ok (e' :: es) h.2 width level Trivia.space
    exact ih.append (.cons (by simp) (by simp) ihs)

theorem Call.orderly_piecesList {ok : Number → Prop} {cs : List Call}
    (h : Call.WellFormedList ok cs) (width level : Nat) :
    OrderlyTo true (Call.piecesList width level cs) true := by
  match cs with
  | [] => exact ⟨trivial, rfl⟩
  | c :: cs =>
    have ih := Call.orderly_pieces (c := c) h.2.2.1 width (c.kind.level level) true
      (c.gap width (c.kind.level level))
    have ihs := @Call.orderly_piecesList ok cs h.2.2.2 width level
    exact ih.append ihs

end

end Tickscript
