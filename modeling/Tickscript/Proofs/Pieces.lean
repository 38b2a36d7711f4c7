import Tickscript.Proofs.Accounting
import Tickscript.Proofs.Origins
import Tickscript.Token.Trivia

/-!
# Written texts as pieces

What the printer writes is a row of tokens with blanks and comments between them. A `Piece` is one
of these tokens with what stands in front of it, and `Expr.pieces`, `Statement.pieces` and
`Program.pieces` list the pieces of a text. Put together they are the text that is written
(`Program.source_pieces`), so whatever holds of the text can be shown piece by piece.
-/

namespace Tickscript

/-- A token as it is written, with what stands in front of it. -/
structure Piece where
  gap : List Trivia
  kind : Kind
  text : List Char
deriving DecidableEq

namespace Piece

/-- The piece as it stands in the text. -/
def source (p : Piece) : List Char := Trivia.textOf p.gap ++ p.text

/-- A row of pieces as it stands in the text. -/
def sourceOf (ps : List Piece) : List Char := ps.flatMap source

/-- Pieces, in parentheses if they are needed. What stands in front comes before all of it. -/
def enclosed (parens : Bool) (g : List Trivia) (inside : List Trivia → List Piece) : List Piece :=
  if parens then ⟨g, .lParen, ['(']⟩ :: inside [] ++ [⟨[], .rParen, [')']⟩] else inside g

@[simp]
theorem sourceOf_nil : sourceOf [] = [] := rfl

/-- The text of a row starts with the gap and the text of its first piece. -/
@[simp]
theorem sourceOf_cons (p : Piece) (ps : List Piece) :
    sourceOf (p :: ps) = Trivia.textOf p.gap ++ p.text ++ sourceOf ps := rfl

@[simp]
theorem sourceOf_append (ps qs : List Piece) :
    sourceOf (ps ++ qs) = sourceOf ps ++ sourceOf qs := by
  simp [sourceOf]

end Piece

/-! ## Gaps -/

namespace Trivia

/-- One blank. -/
def space : List Trivia := [.blank ' ']

/-- The end of a line. -/
def newline : Trivia := .blank '\n'

/-- The blanks in front of a line at some level. -/
def indent (width level : Nat) : List Trivia := List.replicate (width * level) (.blank ' ')

@[simp]
theorem textOf_nil : textOf [] = [] := rfl

@[simp]
theorem textOf_cons (t : Trivia) (ts : List Trivia) : textOf (t :: ts) = t.text ++ textOf ts := rfl

@[simp]
theorem textOf_append (ts us : List Trivia) : textOf (ts ++ us) = textOf ts ++ textOf us := by
  simp [textOf]

@[simp]
theorem textOf_space : textOf space = [' '] := rfl

@[simp]
theorem text_newline : newline.text = ['\n'] := rfl

/-- Indentation is so many blanks. -/
theorem textOf_indent (width level : Nat) :
    textOf (indent width level) = (indentation width level).toList := by
  unfold indent indentation
  rw [String.toList_ofList]
  induction width * level with
  | zero => rfl
  | succ n ih => simp [List.replicate_succ, ih, text]

end Trivia

namespace Comment

/-- One line of a comment and the end of the line. -/
def lineGap (width level : Nat) (line : String) : List Trivia :=
  Trivia.indent width level ++
    [.line (if line = "" then [] else ' ' :: line.toList), Trivia.newline]

/-- A comment as line comments at some level. -/
def gap (width level : Nat) (comment : Option Comment) : List Trivia :=
  (comment.getD []).flatMap (lineGap width level)

/-- The line comments of a gap are those that are written. -/
theorem textOf_gap (width level : Nat) (comment : Option Comment) :
    Trivia.textOf (gap width level comment) = (render width level comment).toList := by
  cases comment with
  | none => rfl
  | some lines =>
    simp only [gap, render, Option.getD_some]
    induction lines with
    | nil => rfl
    | cons line lines ih =>
      have hline : Trivia.textOf (lineGap width level line) =
          (renderLine width level line).toList := by
        unfold lineGap renderLine
        by_cases h : line = "" <;> simp [h, Trivia.textOf_indent, Trivia.text, Trivia.newline]
      rw [List.flatMap_cons, Trivia.textOf_append, hline, ih, List.map_cons]
      simp [String.join_cons]

end Comment

/-! ## Expressions -/

/-- The pieces in front of the arguments of a call: its mark and its name. -/
def CallKind.lead (kind : CallKind) (g : List Trivia) (name : String) : List Piece :=
  match kind.kind? with
  | none => [⟨g, .identifier, name.toList⟩]
  | some mark => [⟨g, mark, kind.mark.toList⟩, ⟨[], .identifier, name.toList⟩]

/-- What stands in front of a call in a chain. -/
def Call.gap (width level : Nat) (c : Call) : List Trivia :=
  Trivia.newline :: Comment.gap width level c.origin.comment ++ Trivia.indent width level

mutual

/-- The pieces of an expression at some level, with `g` in front of the first. -/
def Expr.pieces (width level : Nat) (g : List Trivia) : Expr → List Piece
  | .number _ v => [⟨g, .number, v.render.toList⟩]
  | .string _ v verbatim =>
    [⟨g, .string, (if verbatim then Quote.verbatim v else Quote.string v).toList⟩]
  | .duration _ micros => [⟨g, .duration, (Duration.render micros).toList⟩]
  | .regex _ pattern => [⟨g, .regex, (Regex.literal pattern).toList⟩]
  | .bool _ v => [⟨g, .boolean, (if v then "TRUE" else "FALSE").toList⟩]
  | .star _ => [⟨g, .star, ['*']⟩]
  | .list _ es =>
    ⟨g, .lBracket, ['[']⟩ :: Expr.piecesList width level [] es ++ [⟨[], .rBracket, [']']⟩]
  | .identifier _ name => [⟨g, .identifier, name.toList⟩]
  | .reference _ name => [⟨g, .reference, (Quote.reference name).toList⟩]
  | .lambda _ body =>
    ⟨g, .lambda, "lambda".toList⟩ :: ⟨[], .colon, [':']⟩ :: body.pieces width level Trivia.space
  | .unary _ op e =>
    ⟨g, op.kind, op.symbol.toList⟩ ::
      Piece.enclosed (e.needsParens fun _ => false) [] fun g => e.pieces width level g
  | .binary _ op l r parenthesized =>
    Piece.enclosed parenthesized g fun g =>
      Piece.enclosed (l.needsParens fun p => op.precedence ≤ p) g (fun g => l.pieces width level g)
        ++ ⟨Trivia.space, op.kind, op.symbol.toList⟩ ::
        Piece.enclosed (r.needsParens fun p => op.precedence < p) Trivia.space
          fun g => r.pieces width level g
  | .function call => call.pieces width level g
  | .chain _ source calls =>
    ⟨g, Lexer.wordKind source.name, source.name.toList⟩ :: Call.piecesList width level calls

/-- The pieces of a call at some level, with `g` in front of the first. -/
def Call.pieces (width level : Nat) (g : List Trivia) : Call → List Piece
  | .mk _ kind name args =>
    kind.lead g name ++ ⟨[], .lParen, ['(']⟩ :: Expr.piecesList width level [] args ++
      [⟨[], .rParen, [')']⟩]

/-- The pieces of expressions between commas, with `g` in front of the first. -/
def Expr.piecesList (width level : Nat) (g : List Trivia) : List Expr → List Piece
  | [] => []
  | [e] => e.pieces width level g
  | e :: es =>
    e.pieces width level g ++ ⟨[], .comma, [',']⟩ :: Expr.piecesList width level Trivia.space es

/-- The pieces of the calls of a chain at `level`. -/
def Call.piecesList (width level : Nat) : List Call → List Piece
  | [] => []
  | c :: cs =>
    c.pieces width (c.kind.level level) (c.gap width (c.kind.level level)) ++
      Call.piecesList width level cs

end

attribute [simp] Expr.pieces Call.pieces Expr.piecesList Call.piecesList

/-- Parentheses around pieces are parentheses around their text. -/
theorem Piece.sourceOf_enclosed {parens : Bool} {g : List Trivia}
    {inside : List Trivia → List Piece} {text : String}
    (h : ∀ g, sourceOf (inside g) = Trivia.textOf g ++ text.toList) :
    sourceOf (enclosed parens g inside) = Trivia.textOf g ++ (Expr.enclose parens text).toList := by
  unfold enclosed Expr.enclose
  split <;> simp [h]

/-- The mark and the name of a call are its first pieces. -/
theorem CallKind.sourceOf_lead (kind : CallKind) (g : List Trivia) (name : String) :
    Piece.sourceOf (kind.lead g name) = Trivia.textOf g ++ (kind.mark ++ name).toList := by
  cases kind <;> simp [CallKind.lead, CallKind.kind?, CallKind.mark]

mutual

/-- The pieces of an expression are what is written for it. -/
theorem Expr.sourceOf_pieces (width level : Nat) (g : List Trivia) (e : Expr) :
    Piece.sourceOf (e.pieces width level g) =
      Trivia.textOf g ++ (e.render width level).toList := by
  match e with
  | .number .. | .string .. | .duration .. | .regex .. | .bool .. | .star .. | .identifier ..
  | .reference .. => simp [Expr.pieces, Expr.render]
  | .list _ es => simp [Expr.pieces, Expr.render, Expr.sourceOf_piecesList width level [] es]
  | .lambda _ b => simp [Expr.pieces, Expr.render, b.sourceOf_pieces width level]
  | .unary _ op x =>
    have ih := @Piece.sourceOf_enclosed (x.needsParens fun _ => false) [] _ _
      fun g => x.sourceOf_pieces width level g
    simp [Expr.pieces, Expr.render, ih]
  | .binary _ op l r p =>
    have ihr := @Piece.sourceOf_enclosed (r.needsParens fun p => op.precedence < p)
      Trivia.space _ _ fun g => r.sourceOf_pieces width level g
    have ihl := fun g => @Piece.sourceOf_enclosed (l.needsParens fun p => op.precedence ≤ p)
      g _ _ fun g => l.sourceOf_pieces width level g
    rw [Expr.pieces, Expr.render]
    refine Piece.sourceOf_enclosed fun g => ?_
    simp [ihl, ihr]
  | .function c => exact c.sourceOf_pieces width level g
  | .chain _ s cs => simp [Expr.pieces, Expr.render, Call.sourceOf_piecesList width level cs]

/-- The pieces of a call are its text. -/
theorem Call.sourceOf_pieces (width level : Nat) (g : List Trivia) (c : Call) :
    Piece.sourceOf (c.pieces width level g) =
      Trivia.textOf g ++ (c.render width level).toList := by
  match c with
  | .mk _ kind name as =>
    simp [Call.pieces, Call.render, Expr.sourceOf_piecesList width level [] as,
      kind.sourceOf_lead g name]

/-- The pieces of arguments are their texts, with commas between them. -/
theorem Expr.sourceOf_piecesList (width level : Nat) (g : List Trivia) (es : List Expr) :
    Piece.sourceOf (Expr.piecesList width level g es) =
      (if es.isEmpty then [] else Trivia.textOf g) ++
        (Expr.commaSeparated (Expr.renderList width level es)).toList := by
  match es with
  | [] => rfl
  | [e] => simp [Expr.piecesList, Expr.renderList, Expr.commaSeparated,
      e.sourceOf_pieces width level]
  | e :: e' :: es =>
    have ih := Expr.sourceOf_piecesList width level Trivia.space (e' :: es)
    simp only [Expr.renderList] at ih
    simp [Expr.piecesList, Expr.renderList, Expr.commaSeparated, e.sourceOf_pieces width level, ih]

/-- The pieces of the calls of a chain are their texts. -/
theorem Call.sourceOf_piecesList (width level : Nat) (cs : List Call) :
    Piece.sourceOf (Call.piecesList width level cs) = (Call.renderList width level cs).toList := by
  match cs with
  | [] => rfl
  | c :: cs =>
    simp [Call.piecesList, Call.renderList, c.sourceOf_pieces, Call.gap, Comment.textOf_gap,
      Trivia.textOf_indent, Call.sourceOf_piecesList width level cs]

end

/-! ## Programs -/

/-- The pieces of what a variable stands for. -/
def Binding.pieces (width : Nat) : Binding → List Piece
  | value e => ⟨Trivia.space, .assign, ['=']⟩ :: e.pieces width 0 Trivia.space
  | template type => [⟨Trivia.space, Lexer.wordKind type.name, type.name.toList⟩]

/-- The pieces of a statement with its comment above it, with `g` in front of all. -/
def Statement.pieces (width : Nat) (g : List Trivia) (s : Statement) : List Piece :=
  let g := g ++ Comment.gap width 0 s.origin.comment
  match s with
  | declare _ name binding =>
    ⟨g, .var, "var".toList⟩ :: ⟨Trivia.space, .identifier, name.name.toList⟩ :: binding.pieces width
  | expr e => e.pieces width 0 g

/-- The pieces of a `dbrp` line with its comment above it, with `g` in front of all. -/
def DbrpLine.pieces (width : Nat) (g : List Trivia) (d : DbrpLine) : List Piece :=
  [⟨g ++ Comment.gap width 0 d.origin.comment, .dbrp, "dbrp".toList⟩,
    ⟨Trivia.space, .reference, (Quote.reference d.database).toList⟩, ⟨[], .dot, ['.']⟩,
    ⟨[], .reference, (Quote.reference d.retentionPolicy).toList⟩]

namespace Program

/-- The pieces of `dbrp` lines, one on a line. -/
def dbrpPieces (width : Nat) (g : List Trivia) : List DbrpLine → List Piece
  | [] => []
  | d :: ds => d.pieces width g ++ dbrpPieces width [Trivia.newline] ds

/-- The pieces of statements, a blank line between any two. -/
def statementPieces (width : Nat) (g : List Trivia) : List Statement → List Piece
  | [] => []
  | s :: ss => s.pieces width g ++ statementPieces width [Trivia.newline, Trivia.newline] ss

/-- What stands in front of the first statement. -/
def statementsGap (p : Program) : List Trivia :=
  if p.dbrps.isEmpty then [] else [Trivia.newline, Trivia.newline]

/-- The pieces of a program. -/
def pieces (width : Nat) (p : Program) : List Piece :=
  dbrpPieces width [] p.dbrps ++ statementPieces width p.statementsGap p.statements

/-- What stands behind the last piece of a program. -/
def endGap (width : Nat) (p : Program) : List Trivia :=
  (if p.dbrps.isEmpty && p.statements.isEmpty then [] else [Trivia.newline]) ++
    (match p.trailingComment with
    | none => []
    | some lines =>
      (if p.dbrps.isEmpty && p.statements.isEmpty then [] else [Trivia.newline]) ++
        Comment.gap width 0 (some lines))

end Program

/-- The pieces of a statement are its text. -/
theorem Statement.sourceOf_pieces (width : Nat) (g : List Trivia) (s : Statement) :
    Piece.sourceOf (s.pieces width g) = Trivia.textOf g ++ (s.render width).toList := by
  cases s with
  | declare o name binding =>
    cases binding <;>
      simp [Statement.pieces, Statement.render, Binding.pieces, Binding.render, Comment.textOf_gap,
        Expr.sourceOf_pieces]
  | expr e =>
    simp [Statement.pieces, Statement.render, Comment.textOf_gap, Expr.sourceOf_pieces]

/-- The pieces of a line and the end of the line are what is written for it. -/
theorem DbrpLine.sourceOf_pieces (width : Nat) (g : List Trivia) (d : DbrpLine) :
    Piece.sourceOf (d.pieces width g) ++ ['\n'] = Trivia.textOf g ++ (d.render width).toList := by
  simp [DbrpLine.pieces, DbrpLine.render, Comment.textOf_gap]

namespace Program

/-- The lines of databases are written one after another. -/
theorem sourceOf_dbrpPieces (width : Nat) (g : List Trivia) (d : DbrpLine) (ds : List DbrpLine) :
    Piece.sourceOf (dbrpPieces width g (d :: ds)) ++ ['\n'] =
      Trivia.textOf g ++ (String.join ((d :: ds).map (DbrpLine.render width))).toList := by
  induction ds generalizing g d with
  | nil => simpa [dbrpPieces, String.join_cons] using d.sourceOf_pieces width g
  | cons d' ds ih =>
    have hd := d.sourceOf_pieces width g
    have ih := ih [Trivia.newline] d'
    have hjoin : (String.join ((d :: d' :: ds).map (DbrpLine.render width))).toList =
        (d.render width).toList ++
          (String.join ((d' :: ds).map (DbrpLine.render width))).toList := by
      rw [List.map_cons, String.join_cons, String.toList_append]
    rw [dbrpPieces, Piece.sourceOf_append, List.append_assoc, ih, hjoin, ← List.append_assoc,
      ← List.append_assoc, ← hd]
    rfl

/-- Between statements there is an empty line. -/
theorem sourceOf_statementPieces (width : Nat) (g : List Trivia) (s : Statement)
    (ss : List Statement) :
    Piece.sourceOf (statementPieces width g (s :: ss)) ++ ['\n'] =
      Trivia.textOf g ++ (renderStatements width (s :: ss)).toList := by
  induction ss generalizing g s with
  | nil => simp [statementPieces, renderStatements, Statement.sourceOf_pieces]
  | cons s' ss ih =>
    have ih := ih [Trivia.newline, Trivia.newline] s'
    rw [statementPieces, Piece.sourceOf_append, List.append_assoc, ih]
    simp [renderStatements, Statement.sourceOf_pieces]

/-- All that is written of a program is its pieces, and the end of the last line if there is one. -/
theorem toList_renderBody (width : Nat) (p : Program) :
    (p.renderBody width).toList = Piece.sourceOf (p.pieces width) ++
      (if p.dbrps.isEmpty && p.statements.isEmpty then [] else ['\n']) := by
  obtain ⟨ds, ss, trailing⟩ := p
  cases ds with
  | nil =>
    cases ss with
    | nil => rfl
    | cons s ss =>
      have := sourceOf_statementPieces width [] s ss
      simpa [renderBody, pieces, dbrpPieces, statementsGap] using this.symm
  | cons d ds =>
    have hds := sourceOf_dbrpPieces width [] d ds
    simp only [Trivia.textOf_nil, List.nil_append] at hds
    cases ss with
    | nil => simpa [renderBody, pieces, statementPieces, renderStatements] using hds.symm
    | cons s ss =>
      have hss := sourceOf_statementPieces width [Trivia.newline, Trivia.newline] s ss
      simp only [renderBody, pieces, statementsGap, List.isEmpty_cons, Bool.or_self,
        Bool.and_self, Bool.false_eq_true, if_false, Piece.sourceOf_append, List.append_assoc, hss]
      rw [String.toList_append, String.toList_append, ← hds]
      simp

/-- Nothing is written of a program just if there is nothing in it. -/
theorem renderBody_eq_empty_iff (width : Nat) (p : Program) :
    p.renderBody width = "" ↔ (p.dbrps.isEmpty && p.statements.isEmpty) = true := by
  rw [← String.toList_inj, toList_renderBody]
  obtain ⟨ds, ss, trailing⟩ := p
  cases ds with
  | nil =>
    cases ss with
    | nil => simp [pieces, dbrpPieces, statementPieces]
    | cons s ss => simp
  | cons d ds => simp

/-- The pieces of a program and what stands behind them are what is written for it. -/
theorem source_pieces (width : Nat) (p : Program) :
    (p.render width).toList =
      Piece.sourceOf (p.pieces width) ++ Trivia.textOf (p.endGap width) := by
  have hbody := toList_renderBody width p
  have hempty := renderBody_eq_empty_iff width p
  unfold render endGap
  cases p.trailingComment with
  | none =>
    simp only [hbody]
    split <;> simp
  | some lines =>
    by_cases h : (p.dbrps.isEmpty && p.statements.isEmpty) = true
    · have hb := hempty.2 h
      rw [if_pos h, List.append_nil] at hbody
      simp only [hb, if_true, ← hbody, if_pos h]
      simp [Comment.textOf_gap]
    · have hb : p.renderBody width ≠ "" := fun hb => h (hempty.1 hb)
      rw [if_neg h] at hbody
      simp only [hb, if_false, if_neg h, String.toList_append, hbody]
      simp [Comment.textOf_gap]

end Program

end Tickscript
