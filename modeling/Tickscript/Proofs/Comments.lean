import Mathlib.Data.List.DropRight
import Tickscript.Proofs.RereadPrograms

/-!
# Comments that are written

The lines of a comment that was read have no blanks at their ends (`Comment.Trimmed`), so such a
comment is read again as it was written, except that its empty lines are lost
(`Comment.getD_reread`): an empty line comment has no line.

The printer writes the comments of `dbrp` lines, of statements and of the calls in chains, and the
one at the end. `Program.commentLines` lists the lines of all of them, in the order in which they
stand in the text.
-/

namespace Tickscript

namespace Text

/-- A text that lost the blanks at its end has no more to lose. -/
theorem trimEnd_trimEnd (cs : List Char) : trimEnd (trimEnd cs) = trimEnd cs := by
  rw [trimEnd, trimEnd, List.reverse_reverse, List.dropWhile_idempotent]

/-- Taking blanks off the end leaves a front of the text. -/
theorem trimEnd_isPrefix (cs : List Char) : trimEnd cs <+: cs := by
  rw [← List.reverse_suffix, trimEnd, List.reverse_reverse]
  exact List.dropWhile_suffix _

/-- A text without blanks in front has none there after those at its end are taken off. -/
theorem dropWhile_trimEnd {cs : List Char} (h : cs.dropWhile isBlank = cs) :
    (trimEnd cs).dropWhile isBlank = trimEnd cs := by
  cases hend : trimEnd cs with
  | nil => rfl
  | cons c ds =>
    obtain ⟨es, rfl⟩ := hend ▸ trimEnd_isPrefix cs
    cases hc : isBlank c with
    | false => simp [hc]
    | true =>
      -- a blank in front would have been dropped
      have hlen := congrArg List.length h
      have hle := (List.dropWhile_suffix (l := ds ++ es) isBlank).length_le
      simp only [List.cons_append, List.dropWhile_cons, hc, if_true, List.length_cons] at hlen
      omega

/-- Once the blanks at its ends are gone, a line has none. -/
theorem trim_trim (cs : List Char) : trim (trim cs) = trim cs := by
  unfold trim
  rw [dropWhile_trimEnd (List.dropWhile_idempotent ..), trimEnd_trimEnd]

theorem mem_of_mem_trim {c : Char} {cs : List Char} (h : c ∈ trim cs) : c ∈ cs :=
  (List.dropWhile_suffix _).subset ((trimEnd_isPrefix _).subset h)

/-- A line of a text holds no newline. -/
theorem newline_not_mem_lines (cs : List Char) : ∀ l ∈ lines cs, '\n' ∉ l := by
  induction cs with
  | nil => simp [lines]
  | cons c cs ih =>
    rw [lines]
    split
    · simpa using ih
    · next hc =>
      cases hlines : lines cs with
      | nil => simpa [consLine] using Ne.symm hc
      | cons l ls =>
        rw [hlines] at ih
        intro x hx
        rcases List.mem_cons.1 hx with rfl | hx
        · simpa [Ne.symm hc] using ih l (by simp)
        · exact ih x (by simp [hx])

/-- A text without newlines is one line, unless it is empty. -/
theorem lines_eq_singleton {cs : List Char} (hne : cs ≠ []) (h : '\n' ∉ cs) : lines cs = [cs] := by
  induction cs with
  | nil => exact absurd rfl hne
  | cons c cs ih =>
    have hc : c ≠ '\n' := fun hc => h (by simp [hc])
    rw [lines, if_neg hc]
    cases cs with
    | nil => rfl
    | cons d cs => rw [ih (by simp) fun hmem => h (List.mem_cons_of_mem _ hmem), consLine]

end Text

/-! ## Reading a comment again -/

namespace Comment

/-- A comment has lines, without blanks at their ends. -/
structure Trimmed (comment : Option Comment) : Prop where
  lines : ∀ line ∈ comment.getD [], Text.trim line.toList = line.toList ∧ '\n' ∉ line.toList
  nonempty : comment ≠ some []

/-- No line of a trimmed comment holds a newline. -/
theorem Trimmed.hasLines {comment : Option Comment} (h : Trimmed comment) : HasLines comment :=
  fun line hline => (h.lines line hline).2

theorem trimmed_none : Trimmed none :=
  ⟨by simp, by simp⟩

/-- Two trimmed comments, one above the other, are one trimmed comment. -/
theorem trimmed_append {lines : Comment} {comment : Option Comment} (h : Trimmed (some lines))
    (h' : Trimmed comment) : Trimmed (some (lines ++ comment.getD [])) := by
  refine ⟨fun line hline => ?_, fun hnil => h.nonempty ?_⟩
  · rcases List.mem_append.1 hline with hline | hline
    · exact h.lines line hline
    · exact h'.lines line hline
  · simp only [Option.some.injEq, List.append_eq_nil_iff] at hnil
    rw [hnil.1]

/-- What is read of the line that is written for a line. -/
theorem lines_lineGap (line : String) (h : Text.trim line.toList = line.toList)
    (hline : '\n' ∉ line.toList) :
    (lineGap 0 0 line).flatMap Trivia.lines = [line].filter (· ≠ "") := by
  by_cases hne : line = ""
  · subst hne
    rfl
  · have hlines : Text.lines (' ' :: line.toList) = [' ' :: line.toList] :=
      Text.lines_eq_singleton (by simp) (by simpa using hline)
    have htrim : Text.trim (' ' :: line.toList) = line.toList := by
      rw [← h]
      show Text.trimEnd ((' ' :: Text.trim line.toList).dropWhile Text.isBlank) = _
      rw [List.dropWhile_cons_of_pos (by decide)]
      exact Text.trim_trim _
    have hindent := Trivia.lines_indent 0 0
    simp [lineGap, hindent, hne, Trivia.lines, Trivia.newline, hlines, htrim]

/-- A comment comes back without its empty lines. -/
theorem getD_reread {comment : Option Comment} (h : Trimmed comment) :
    (reread comment).getD [] = (comment.getD []).filter (· ≠ "") := by
  have hlines : (gap 0 0 comment).flatMap Trivia.lines = (comment.getD []).filter (· ≠ "") := by
    have hall := h.lines
    unfold gap
    generalize comment.getD [] = lines at hall
    induction lines with
    | nil => rfl
    | cons line lines ih =>
      have hline := hall line (by simp)
      rw [List.flatMap_cons, List.flatMap_append, lines_lineGap line hline.1 hline.2,
        ih fun l hl => hall l (by simp [hl]), ← List.filter_append, List.singleton_append]
  rw [reread, Trivia.commentOf, hlines]
  split
  · next hnil => rw [hnil]; rfl
  · next l ls hcons => rw [hcons]; rfl

/-- The comment of a token has no blanks at the ends of its lines. -/
theorem trimmed_commentOf (g : List Trivia) : Trimmed (Trivia.commentOf g) := by
  have hlines : ∀ line ∈ g.flatMap Trivia.lines,
      Text.trim line.toList = line.toList ∧ '\n' ∉ line.toList := by
    have hmap : ∀ body : List Char, ∀ line ∈ (Text.lines body).map
        fun l => String.ofList (Text.trim l),
        Text.trim line.toList = line.toList ∧ '\n' ∉ line.toList := by
      intro body line hline
      obtain ⟨l, hl, rfl⟩ := List.mem_map.1 hline
      rw [String.toList_ofList]
      exact ⟨Text.trim_trim l, fun hmem =>
        Text.newline_not_mem_lines body l hl (Text.mem_of_mem_trim hmem)⟩
    intro line hline
    obtain ⟨t, -, ht⟩ := List.mem_flatMap.1 hline
    cases t with
    | blank c => cases ht
    | line body => exact hmap body line ht
    | block body => exact hmap body line ht
  unfold Trivia.commentOf
  split
  · exact trimmed_none
  · next l ls hcons => exact ⟨by rwa [← hcons], by simp⟩

/-- A comment without empty lines comes back as it is. -/
theorem reread_eq {comment : Option Comment} (h : Trimmed comment) (hne : "" ∉ comment.getD []) :
    reread comment = comment := by
  have hlines : (reread comment).getD [] = comment.getD [] := by
    rw [getD_reread h, List.filter_eq_self]
    intro line hline
    have : line ≠ "" := fun hempty => hne (hempty ▸ hline)
    simpa using this
  have hback : Trimmed (reread comment) := trimmed_commentOf _
  cases hr : reread comment with
  | none =>
    cases comment with
    | none => rfl
    | some lines =>
      rw [hr] at hlines
      exact absurd (congrArg some hlines.symm) h.nonempty
  | some lines =>
    rw [hr] at hlines hback
    cases comment with
    | none => exact absurd (congrArg some hlines) hback.nonempty
    | some lines' => exact congrArg some hlines

end Comment

/-! ## The calls of chains -/

mutual

/-- The origins of the calls in the chains of an expression, as they stand in the text. -/
def Expr.callOrigins : Expr → List Origin
  | .list _ es => Expr.callOriginsList es
  | .lambda _ body => body.callOrigins
  | .unary _ _ e => e.callOrigins
  | .binary _ _ l r _ => l.callOrigins ++ r.callOrigins
  | .function c => c.callOrigins
  | .chain _ _ cs => Call.callOriginsList cs
  | _ => []

/-- The origins of the calls in the chains of the arguments of a call. -/
def Call.callOrigins : Call → List Origin
  | .mk _ _ _ args => Expr.callOriginsList args

/-- The origins of the calls in the chains of expressions. -/
def Expr.callOriginsList : List Expr → List Origin
  | [] => []
  | e :: es => e.callOrigins ++ Expr.callOriginsList es

/-- The origins of the calls of a chain, and of those in their arguments. -/
def Call.callOriginsList : List Call → List Origin
  | [] => []
  | c :: cs => c.origin :: c.callOrigins ++ Call.callOriginsList cs

end

attribute [simp] Expr.callOrigins Call.callOrigins Expr.callOriginsList Call.callOriginsList

section

variable (f g g' : Origin → Origin)

mutual

/-- Changing all origins of an expression changes those of its calls. -/
theorem Expr.callOrigins_mapOrigins (e : Expr) :
    (e.mapOrigins f g).callOrigins = e.callOrigins.map g := by
  match e with
  | .number .. | .string .. | .duration .. | .regex .. | .bool .. | .star .. | .identifier ..
  | .reference .. => rfl
  | .list _ es => exact Expr.callOriginsList_mapOrigins es
  | .lambda _ b => exact b.callOrigins_mapOrigins
  | .unary _ _ x => exact x.callOrigins_mapOrigins
  | .binary _ _ l r _ =>
    simp [Expr.mapOrigins, Expr.callOrigins, l.callOrigins_mapOrigins, r.callOrigins_mapOrigins]
  | .function c => exact c.callOrigins_mapOrigins f
  | .chain _ _ cs => exact Call.callOriginsList_mapOrigins cs

theorem Call.callOrigins_mapOrigins (own : Origin → Origin) (c : Call) :
    (c.mapOrigins f g own).callOrigins = c.callOrigins.map g := by
  match c with
  | .mk _ _ _ args => exact Expr.callOriginsList_mapOrigins args

theorem Expr.callOriginsList_mapOrigins (es : List Expr) :
    Expr.callOriginsList (Expr.mapOriginsList f g es) = (Expr.callOriginsList es).map g := by
  match es with
  | [] => rfl
  | e :: es =>
    simp [Expr.mapOriginsList, Expr.callOriginsList, e.callOrigins_mapOrigins,
      Expr.callOriginsList_mapOrigins es]

theorem Call.callOriginsList_mapOrigins (cs : List Call) :
    Call.callOriginsList (Call.mapOriginsList f g cs) = (Call.callOriginsList cs).map g := by
  match cs with
  | [] => rfl
  | c :: cs =>
    have horigin : (c.mapOrigins f g g).origin = g c.origin := by cases c; rfl
    simp [Call.mapOriginsList, Call.callOriginsList, horigin, c.callOrigins_mapOrigins g,
      Call.callOriginsList_mapOrigins cs]

end

variable {g g'}

mutual

/-- Only the origins of calls in chains matter for how they are changed. -/
theorem Expr.mapOrigins_congr {e : Expr} (h : ∀ o ∈ e.callOrigins, g o = g' o) :
    e.mapOrigins f g = e.mapOrigins f g' := by
  match e with
  | .number .. | .string .. | .duration .. | .regex .. | .bool .. | .star .. | .identifier ..
  | .reference .. => rfl
  | .list _ es => rw [Expr.mapOrigins, Expr.mapOrigins, @Expr.mapOriginsList_congr es h]
  | .lambda _ b => rw [Expr.mapOrigins, Expr.mapOrigins, Expr.mapOrigins_congr (e := b) h]
  | .unary _ _ x => rw [Expr.mapOrigins, Expr.mapOrigins, Expr.mapOrigins_congr (e := x) h]
  | .binary _ _ l r _ =>
    rw [Expr.mapOrigins, Expr.mapOrigins,
      Expr.mapOrigins_congr (e := l) fun o ho => h o (List.mem_append_left _ ho),
      Expr.mapOrigins_congr (e := r) fun o ho => h o (List.mem_append_right _ ho)]
  | .function c => rw [Expr.mapOrigins, Expr.mapOrigins, Call.mapOrigins_congr (c := c) h rfl]
  | .chain _ _ cs => rw [Expr.mapOrigins, Expr.mapOrigins, @Call.mapOriginsList_congr cs h]

/-- What a change of origins makes of a call depends on the origins of the calls in it alone. -/
theorem Call.mapOrigins_congr {c : Call} (h : ∀ o ∈ c.callOrigins, g o = g' o)
    {own own' : Origin → Origin} (hown : own c.origin = own' c.origin) :
    c.mapOrigins f g own = c.mapOrigins f g' own' := by
  match c with
  | .mk o _ _ args =>
    have hown : own o = own' o := hown
    rw [Call.mapOrigins, Call.mapOrigins, @Expr.mapOriginsList_congr args h, hown]

theorem Expr.mapOriginsList_congr {es : List Expr}
    (h : ∀ o ∈ Expr.callOriginsList es, g o = g' o) :
    Expr.mapOriginsList f g es = Expr.mapOriginsList f g' es := by
  match es with
  | [] => rfl
  | e :: es =>
    rw [Expr.mapOriginsList, Expr.mapOriginsList,
      Expr.mapOrigins_congr (e := e) fun o ho => h o (List.mem_append_left _ ho),
      @Expr.mapOriginsList_congr es fun o ho => h o (List.mem_append_right _ ho)]

theorem Call.mapOriginsList_congr {cs : List Call}
    (h : ∀ o ∈ Call.callOriginsList cs, g o = g' o) :
    Call.mapOriginsList f g cs = Call.mapOriginsList f g' cs := by
  match cs with
  | [] => rfl
  | c :: cs =>
    rw [Call.mapOriginsList, Call.mapOriginsList, Call.mapOrigins_congr (c := c)
        (fun o ho => h o (by simp [Call.callOriginsList, ho]))
        (h c.origin (by simp [Call.callOriginsList])),
      @Call.mapOriginsList_congr cs fun o ho => h o (by simp [Call.callOriginsList, ho])]

end

end

/-! ## The lines of all comments -/

/-- The origins of the calls in the chains of a statement. -/
def Statement.callOrigins : Statement → List Origin
  | declare _ _ (.value e) => e.callOrigins
  | declare _ _ (.template _) => []
  | expr e => e.callOrigins

/-- The lines of the comment of an origin. -/
def Origin.lines (o : Origin) : List String := o.comment.getD []

/-- The lines of the comments that are written with a statement. -/
def Statement.commentLines (s : Statement) : List String :=
  s.origin.lines ++ s.callOrigins.flatMap Origin.lines

/-- The lines of the comments that are written with a program. -/
def Program.commentLines (p : Program) : List String :=
  p.dbrps.flatMap (·.origin.lines) ++ p.statements.flatMap Statement.commentLines ++
    p.trailingComment.getD []

/-! ## Comments in gaps -/

/-- What is written of a line behind the mark of a line comment. -/
def Comment.body (line : String) : List Char := if line = "" then [] else ' ' :: line.toList

/-- Different lines of comments have different bodies when they are written. -/
theorem Comment.body_injective : Function.Injective body := by
  intro a b h
  unfold body at h
  split at h <;> split at h <;> simp_all [String.toList_inj]

/-- The bodies of the line comments in a gap. -/
def Trivia.bodies (g : List Trivia) : List (List Char) :=
  g.filterMap fun
    | .line body => some body
    | _ => none

/-- No gap has no comments in it. -/
@[simp]
theorem Trivia.bodies_nil : bodies [] = [] := rfl

@[simp]
theorem Trivia.bodies_space : bodies space = [] := rfl

@[simp]
theorem Trivia.bodies_newline (g : List Trivia) : bodies (newline :: g) = bodies g := rfl

/-- The comments in two gaps are those of the first and then those of the second. -/
@[simp]
theorem Trivia.bodies_append (g g' : List Trivia) : bodies (g ++ g') = bodies g ++ bodies g' :=
  List.filterMap_append ..

/-- Indentation holds no comment. -/
@[simp]
theorem Trivia.bodies_indent (width level : Nat) : bodies (indent width level) = [] := by
  rw [bodies, List.filterMap_eq_nil_iff]
  intro t ht
  rw [List.eq_of_mem_replicate ht]

/-- The line comments of a written comment are its lines. -/
@[simp]
theorem Comment.bodies_gap (width level : Nat) (comment : Option Comment) :
    Trivia.bodies (gap width level comment) = (comment.getD []).map body := by
  unfold gap
  induction comment.getD [] with
  | nil => rfl
  | cons line lines ih =>
    have hline : Trivia.bodies (lineGap width level line) = [body line] := by
      rw [lineGap, Trivia.bodies_append, Trivia.bodies_indent]
      rfl
    rw [List.flatMap_cons, Trivia.bodies_append, hline, ih, List.map_cons, List.singleton_append]

/-- The bodies of the line comments in front of some pieces. -/
def Piece.bodies (ps : List Piece) : List (List Char) := ps.flatMap (Trivia.bodies ·.gap)

/-- No pieces hold no comments. -/
@[simp]
theorem Piece.bodies_nil : bodies [] = [] := rfl

/-- The comments before some pieces are those before the first and those before the others. -/
@[simp]
theorem Piece.bodies_cons (p : Piece) (ps : List Piece) :
    bodies (p :: ps) = Trivia.bodies p.gap ++ bodies ps := rfl

@[simp]
theorem Piece.bodies_append (ps qs : List Piece) : bodies (ps ++ qs) = bodies ps ++ bodies qs :=
  List.flatMap_append ..

/-- Parentheses hold no comment of their own, so they add none to what is inside. -/
theorem Piece.bodies_enclosed {parens : Bool} {g : List Trivia} {inside : List Trivia → List Piece}
    {bs : List (List Char)} (h : ∀ g, bodies (inside g) = Trivia.bodies g ++ bs) :
    bodies (enclosed parens g inside) = Trivia.bodies g ++ bs := by
  cases parens <;> simp [enclosed, h]

theorem CallKind.bodies_lead (kind : CallKind) (g : List Trivia) (name : String) :
    Piece.bodies (kind.lead g name) = Trivia.bodies g := by
  unfold lead
  split <;> simp

/-- What is written of the comments of some origins. -/
def Origin.bodies (os : List Origin) : List (List Char) :=
  (os.flatMap Origin.lines).map Comment.body

/-- The comments of some origins after others come after theirs. -/
@[simp]
theorem Origin.bodies_append (os os' : List Origin) :
    bodies (os ++ os') = bodies os ++ bodies os' := by
  simp [bodies]

mutual

/-- The line comments inside a written expression are those of the calls in its chains. -/
theorem Expr.bodies_pieces (width level : Nat) (g : List Trivia) (e : Expr) :
    Piece.bodies (e.pieces width level g) = Trivia.bodies g ++ Origin.bodies e.callOrigins := by
  match e with
  | .number .. | .string .. | .duration .. | .regex .. | .bool .. | .star .. | .identifier ..
  | .reference .. => rfl
  | .list _ es => simp [Expr.pieces, Expr.callOrigins, Expr.bodies_piecesList width level [] es]
  | .lambda _ b => simp [Expr.pieces, Expr.callOrigins, b.bodies_pieces width level]
  | .unary _ _ x =>
    have ih := @Piece.bodies_enclosed (x.needsParens fun _ => false) [] _ _
      fun g => x.bodies_pieces width level g
    simpa [Expr.pieces, Expr.callOrigins] using ih
  | .binary _ op l r p =>
    rw [Expr.pieces]
    refine Piece.bodies_enclosed fun g => ?_
    rw [Piece.bodies_append, Piece.bodies_cons,
      Piece.bodies_enclosed fun g => l.bodies_pieces width level g,
      Piece.bodies_enclosed fun g => r.bodies_pieces width level g]
    simp [Expr.callOrigins]
  | .function c => exact c.bodies_pieces width level g
  | .chain _ _ cs => simp [Expr.pieces, Expr.callOrigins, Call.bodies_piecesList width level cs]

/-- What is written for a call holds the comments of the calls in it, in order. -/
theorem Call.bodies_pieces (width level : Nat) (g : List Trivia) (c : Call) :
    Piece.bodies (c.pieces width level g) = Trivia.bodies g ++ Origin.bodies c.callOrigins := by
  match c with
  | .mk _ kind name args =>
    simp [Call.pieces, Call.callOrigins, CallKind.bodies_lead,
      Expr.bodies_piecesList width level [] args]

theorem Expr.bodies_piecesList (width level : Nat) (g : List Trivia) (es : List Expr) :
    Piece.bodies (Expr.piecesList width level g es) =
      (if es = [] then [] else Trivia.bodies g) ++ Origin.bodies (Expr.callOriginsList es) := by
  match es with
  | [] => rfl
  | [e] => simp [Expr.piecesList, Expr.callOriginsList, e.bodies_pieces width level]
  | e :: e' :: es =>
    simp [Expr.piecesList, Expr.callOriginsList, e.bodies_pieces width level,
      Expr.bodies_piecesList width level Trivia.space (e' :: es)]

theorem Call.bodies_piecesList (width level : Nat) (cs : List Call) :
    Piece.bodies (Call.piecesList width level cs) = Origin.bodies (Call.callOriginsList cs) := by
  match cs with
  | [] => rfl
  | c :: cs =>
    have hgap : Trivia.bodies (c.gap width (c.kind.level level)) = Origin.bodies [c.origin] := by
      simp [Call.gap, Origin.bodies, Origin.lines]
    rw [Call.piecesList, Piece.bodies_append, c.bodies_pieces,
      Call.bodies_piecesList width level cs,
      hgap, ← Origin.bodies_append, ← Origin.bodies_append]
    rfl

end

/-- What is written for a statement holds the comments of the statement, in order. -/
theorem Statement.bodies_pieces (width : Nat) (g : List Trivia) (s : Statement) :
    Piece.bodies (s.pieces width g) = Trivia.bodies g ++ s.commentLines.map Comment.body := by
  match s with
  | .declare o name (.value e) =>
    simp [Statement.pieces, Binding.pieces, Statement.commentLines, Statement.callOrigins,
      Statement.origin, Origin.lines, e.bodies_pieces width 0, Origin.bodies]
  | .declare o name (.template type) =>
    simp [Statement.pieces, Binding.pieces, Statement.commentLines, Statement.callOrigins,
      Statement.origin, Origin.lines]
  | .expr e =>
    simp [Statement.pieces, Statement.commentLines, Statement.callOrigins, Statement.origin,
      e.bodies_pieces width 0, Origin.bodies, Origin.lines]

/-- The line comments of a written program are the lines of its comments. -/
theorem Program.bodies_pieces (width : Nat) (p : Program) :
    Piece.bodies (p.pieces width) ++ Trivia.bodies (p.endGap width) =
      p.commentLines.map Comment.body := by
  have hdbrps : ∀ (ds : List DbrpLine) (g : List Trivia), Trivia.bodies g = [] →
      Piece.bodies (dbrpPieces width g ds) =
        (ds.flatMap (·.origin.lines)).map Comment.body := by
    intro ds
    induction ds with
    | nil => intro _ _; rfl
    | cons d ds ih =>
      intro g hg
      simp [dbrpPieces, DbrpLine.pieces, hg, ih [Trivia.newline] rfl, Origin.lines]
  have hstatements : ∀ (ss : List Statement) (g : List Trivia), Trivia.bodies g = [] →
      Piece.bodies (statementPieces width g ss) =
        (ss.flatMap Statement.commentLines).map Comment.body := by
    intro ss
    induction ss with
    | nil => intro _ _; rfl
    | cons s ss ih =>
      intro g hg
      simp [statementPieces, s.bodies_pieces, hg, ih [Trivia.newline, Trivia.newline] rfl]
  have hgap : Trivia.bodies p.statementsGap = [] := by
    unfold statementsGap
    split <;> rfl
  have hend : Trivia.bodies (p.endGap width) = (p.trailingComment.getD []).map Comment.body := by
    unfold endGap
    cases p.trailingComment with
    | none => split <;> rfl
    | some lines => split <;> simp [*]
  rw [pieces, Piece.bodies_append, hdbrps _ _ rfl, hstatements _ _ hgap, hend, commentLines]
  simp

end Tickscript
