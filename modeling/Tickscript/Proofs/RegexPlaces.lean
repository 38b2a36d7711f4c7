import Tickscript.Proofs.Relexing

/-!
# Where a regex can stand

A slash opens a regex only behind a few kinds of tokens, and the printer leaves out parentheses
around operands that are not binary, so a regex that was read inside parentheses can end up where a
slash divides. `Expr.regexesOpen` looks at the tree to see whether any does, and
`Expr.opens_pieces_iff` says that this is what happens in the written text.
-/

namespace Tickscript

open Lexer (regexMayFollow)

/-- Whether a regex can stand to the right of the operator. -/
def BinaryOp.matchesRegex : BinaryOp → Bool
  | regexMatch | regexNotMatch => true
  | _ => false

mutual

/-- Whether every regex of a written expression stands where one is found: as an argument or an
element, behind an operator that takes one, in front inside parentheses, or in front of all if that
is `allowed`. -/
def Expr.regexesOpen (allowed : Bool) : Expr → Bool
  | .regex .. => allowed
  | .list _ es => Expr.regexesOpenList es
  | .lambda _ body => body.regexesOpen false
  | .unary _ _ e => e.regexesOpen (e.needsParens fun _ => false)
  | .binary _ op l r parenthesized =>
    l.regexesOpen (allowed || parenthesized || l.needsParens fun p => op.precedence ≤ p) &&
      r.regexesOpen (op.matchesRegex || r.needsParens fun p => op.precedence < p)
  | .function c => c.regexesOpen
  | .chain _ _ cs => Call.regexesOpenList cs
  | _ => true

/-- Whether every regex of a written call stands where one is found. -/
def Call.regexesOpen : Call → Bool
  | .mk _ _ _ args => Expr.regexesOpenList args

/-- Whether every regex of written arguments stands where one is found. -/
def Expr.regexesOpenList : List Expr → Bool
  | [] => true
  | e :: es => e.regexesOpen true && Expr.regexesOpenList es

/-- Whether every regex of the written calls of a chain stands where one is found. -/
def Call.regexesOpenList : List Call → Bool
  | [] => true
  | c :: cs => c.regexesOpen && Call.regexesOpenList cs

end

attribute [simp] Expr.regexesOpen Call.regexesOpen Expr.regexesOpenList Call.regexesOpenList

/-- Every regex among the pieces stands behind a token after which a slash opens one. -/
def OpensRegexes (last : Option Kind) : List Piece → Prop
  | [] => True
  | p :: ps => (p.kind = .regex → regexMayFollow last = true) ∧ OpensRegexes (some p.kind) ps

section Pieces

variable {last : Option Kind} {p : Piece} {ps qs : List Piece}

/-- What stands in front does not matter to a piece that is no regex, nor to those behind it. -/
theorem opensRegexes_cons (h : p.kind ≠ .regex) :
    OpensRegexes last (p :: ps) ↔ OpensRegexes (some p.kind) ps := by
  simp [OpensRegexes, h]

/-- In a row of two parts the last token of the first stands in front of the second. -/
theorem opensRegexes_append :
    OpensRegexes last (ps ++ qs) ↔
      OpensRegexes last ps ∧ OpensRegexes (Lexer.lastKind last ps) qs := by
  induction ps generalizing last with
  | nil => simp [OpensRegexes, Lexer.lastKind]
  | cons p ps ih => simp [OpensRegexes, ih, and_assoc, Lexer.lastKind]

/-- Behind a piece that is no regex it does not matter what came before it. -/
theorem opensRegexes_append_cons (h : p.kind ≠ .regex) :
    OpensRegexes last (ps ++ p :: qs) ↔ OpensRegexes last ps ∧ OpensRegexes (some p.kind) qs := by
  rw [opensRegexes_append, opensRegexes_cons h]

theorem opensRegexes_concat (h : p.kind ≠ .regex) :
    OpensRegexes last (ps ++ [p]) ↔ OpensRegexes last ps := by
  simp [opensRegexes_append_cons h, OpensRegexes]

/-- Inside parentheses a regex may stand in front of all. -/
theorem Piece.opensRegexes_enclosed {parens : Bool} {g : List Trivia}
    {inside : List Trivia → List Piece} {P : Bool → Prop}
    (h : ∀ last g, OpensRegexes last (inside g) ↔ P (regexMayFollow last)) :
    OpensRegexes last (enclosed parens g inside) ↔ P (regexMayFollow last || parens) := by
  cases parens with
  | true =>
    simp only [enclosed, if_true, List.cons_append]
    rw [opensRegexes_cons (by simp), opensRegexes_concat (by simp), h]
    simp [regexMayFollow]
  | false => simp [enclosed, h]

end Pieces

/-- A regex stands only behind the two operators that take one. -/
theorem BinaryOp.regexMayFollow_kind (op : BinaryOp) :
    regexMayFollow (some op.kind) = op.matchesRegex := by
  cases op <;> rfl

mutual

/-- Looking at the tree shows where the regexes of the written expression stand. -/
theorem Expr.opens_pieces_iff (width level : Nat) (last : Option Kind) (g : List Trivia)
    (e : Expr) :
    OpensRegexes last (e.pieces width level g) ↔ e.regexesOpen (regexMayFollow last) = true := by
  match e with
  | .number .. | .string .. | .duration .. | .bool .. | .star .. | .identifier .. | .reference .. =>
    simp [Expr.pieces, OpensRegexes, Expr.regexesOpen]
  | .regex .. => simp [Expr.pieces, OpensRegexes, Expr.regexesOpen]
  | .list _ es =>
    have ih := @Expr.opens_piecesList_iff width level (some .lBracket) rfl [] es
    rw [Expr.pieces, List.cons_append, opensRegexes_cons (by simp), opensRegexes_concat (by simp),
      ih, Expr.regexesOpen]
  | .lambda _ body =>
    have ih := body.opens_pieces_iff width level (some .colon) Trivia.space
    rw [Expr.pieces, opensRegexes_cons (by simp), opensRegexes_cons (by simp), ih, Expr.regexesOpen]
    rfl
  | .unary _ op x =>
    have ih := fun last g => x.opens_pieces_iff width level last g
    have hop : op.kind ≠ .regex := by cases op <;> simp [UnaryOp.kind]
    have hmay : regexMayFollow (some op.kind) = false := by cases op <;> rfl
    rw [Expr.pieces, opensRegexes_cons hop,
      Piece.opensRegexes_enclosed (P := fun b => x.regexesOpen b = true) ih, hmay, Bool.false_or,
      Expr.regexesOpen]
  | .binary _ op l r parenthesized =>
    have ihl := fun last g => l.opens_pieces_iff width level last g
    have ihr := fun last g => r.opens_pieces_iff width level last g
    have hop : op.kind ≠ .regex := by cases op <;> simp [BinaryOp.kind]
    rw [Expr.pieces, Expr.regexesOpen, Bool.and_eq_true]
    refine Piece.opensRegexes_enclosed (P := fun b =>
      l.regexesOpen (b || l.needsParens fun p => op.precedence ≤ p) = true ∧
        r.regexesOpen (op.matchesRegex || r.needsParens fun p => op.precedence < p) = true)
      fun last g => ?_
    rw [opensRegexes_append_cons hop,
      Piece.opensRegexes_enclosed (P := fun b => l.regexesOpen b = true) ihl,
      Piece.opensRegexes_enclosed (P := fun b => r.regexesOpen b = true) ihr,
      op.regexMayFollow_kind]
  | .function c => exact c.opens_pieces_iff width level last g
  | .chain _ s cs =>
    have ih := Call.opens_piecesList_iff width level (some (Lexer.wordKind s.name)) cs
    have hk : Lexer.wordKind s.name ≠ .regex := by
      have hcases := Lexer.wordKind_cases s.name
      intro h
      rw [h] at hcases
      revert hcases
      decide
    rw [Expr.pieces, opensRegexes_cons hk, ih, Expr.regexesOpen]

/-- The regexes of a written call stand where the tree says. -/
theorem Call.opens_pieces_iff (width level : Nat) (last : Option Kind) (g : List Trivia)
    (c : Call) :
    OpensRegexes last (c.pieces width level g) ↔ c.regexesOpen = true := by
  match c with
  | .mk _ kind name args =>
    have ih := @Expr.opens_piecesList_iff width level (some .lParen) rfl [] args
    have hlead : OpensRegexes last (kind.lead g name) := by
      cases kind <;> simp [CallKind.lead, CallKind.kind?, OpensRegexes]
    rw [Call.pieces, List.append_assoc, List.cons_append, opensRegexes_append_cons (by simp),
      opensRegexes_concat (by simp), ih, Call.regexesOpen]
    simp [hlead]

/-- The regexes of written arguments stand where the trees say. -/
theorem Expr.opens_piecesList_iff (width level : Nat) {last : Option Kind}
    (hlast : regexMayFollow last = true) (g : List Trivia) (es : List Expr) :
    OpensRegexes last (Expr.piecesList width level g es) ↔ Expr.regexesOpenList es = true := by
  match es with
  | [] => simp [Expr.piecesList, OpensRegexes, Expr.regexesOpenList]
  | [e] =>
    have ih := e.opens_pieces_iff width level last g
    rw [hlast] at ih
    simp [Expr.piecesList, Expr.regexesOpenList, ih]
  | e :: e' :: es =>
    have ih := e.opens_pieces_iff width level last g
    have ihs := @Expr.opens_piecesList_iff width level (some .comma) rfl Trivia.space
      (e' :: es)
    rw [hlast] at ih
    simp only [Expr.piecesList]
    rw [opensRegexes_append_cons (by simp), ih, ihs]
    simp [Expr.regexesOpenList]

/-- The regexes of the written calls of a chain stand where the trees say. -/
theorem Call.opens_piecesList_iff (width level : Nat) (last : Option Kind) (cs : List Call) :
    OpensRegexes last (Call.piecesList width level cs) ↔ Call.regexesOpenList cs = true := by
  match cs with
  | [] => simp [Call.piecesList, OpensRegexes, Call.regexesOpenList]
  | c :: cs =>
    have ih := c.opens_pieces_iff width (c.kind.level level) last (c.gap width (c.kind.level level))
    have ihs := fun last => Call.opens_piecesList_iff width level last cs
    rw [Call.piecesList, opensRegexes_append, ih, ihs, Call.regexesOpenList, Bool.and_eq_true]

end

/-! ## Scanning -/

namespace Lexer

/-- Where each piece may follow the one before it, every regex stands where a slash opens one. -/
theorem Follows.opensRegexes {last : Option Kind} {ps : List Piece} (h : Follows last ps) :
    OpensRegexes last ps := by
  induction ps generalizing last with
  | nil => trivial
  | cons p ps ih =>
    refine ⟨fun hk => ?_, ih h.2⟩
    have := h.1
    rwa [hk] at this

/-- Pieces in order are found where they stand if regexes are. -/
theorem follows_of_opensRegexes {last : Option Kind} {before : Bool} {ps : List Piece}
    (horderly : Orderly before ps) (hbefore : before = true → regexMayFollow last = false)
    (h : OpensRegexes last ps) : Follows last ps := by
  induction ps generalizing last before with
  | nil => trivial
  | cons p ps ih =>
    obtain ⟨hslash, -, horderly⟩ := horderly
    refine ⟨?_, ih horderly regexMayFollow_of_endsOperand h.2⟩
    unfold mayFollow
    split
    · next hk => exact h.1 hk
    · next hk => rw [hbefore (hslash hk).1]; rfl
    · rfl

end Lexer

end Tickscript
