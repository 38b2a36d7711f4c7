import Tickscript.Command
import Tickscript.Proofs.RoundTrip

/-!
# Formatting twice

What is formatted and then formatted again should stay as it is. For that the program has to be read
back, which needs `Program.Reprintable`, and its comments have to be written as they were. They
are not if one of them has an empty line: a mark with nothing behind it is no comment to the reader,
so the line is gone the second time.

`Program.render_again_iff` says that these are the only two reasons. That a text which is not read
back as the same program cannot stay as it is, is shown by comparing pieces: the two programs have
one text, so they have the same pieces, and statements start where two lines end in a row.
-/

namespace Tickscript

open Lexer (Yields)

/-! ## Gaps and pieces -/

/-- What is read of the comment at the end. -/
theorem Program.commentOf_endGap (p : Program) (width : Nat) :
    Trivia.commentOf (p.endGap width) = Comment.reread p.trailingComment := by
  have hfront : ∀ b : Bool, (if b then [] else [Trivia.newline]).flatMap Trivia.lines = [] := by
    intro b
    cases b <;> rfl
  unfold endGap
  generalize (p.dbrps.isEmpty && p.statements.isEmpty) = b
  cases p.trailingComment with
  | none => cases b <;> rfl
  | some lines =>
    have hgap := @Comment.commentOf_gap ((if b then [] else [Trivia.newline]) ++
      if b then [] else [Trivia.newline]) [] (by rw [List.flatMap_append, hfront]; rfl) rfl width 0
      (some lines)
    rwa [List.append_nil, List.append_assoc] at hgap

/-- What is orderly after a row of pieces is orderly after what the row ends in. -/
theorem orderly_of_append {ps qs : List Piece} {before : Bool} (h : Orderly before (ps ++ qs)) :
    Orderly (ps.foldl Piece.endsOperand before) qs := by
  induction ps generalizing before with
  | nil => exact h
  | cons p ps ih => exact ih h.2.2

/-- Whether a gap starts with the ends of two lines. -/
def Trivia.breaks : List Trivia → Bool
  | t :: u :: _ => t == newline && u == newline
  | _ => false

theorem Trivia.inner_unbroken : Inner fun g => breaks g = false where
  nil := rfl
  space := rfl
  call := by
    intro comment _ width level
    have hindent : ∀ g : List Trivia, breaks (newline :: g) = false →
        breaks (newline :: (indent width level ++ g)) = false := by
      intro g hg
      unfold indent
      cases width * level with
      | zero => exact hg
      | succ n => rfl
    unfold Comment.gap
    cases comment.getD [] with
    | nil => simpa using hindent [] rfl
    | cons line lines =>
      rw [List.flatMap_cons, Comment.lineGap]
      simpa using hindent (.line _ :: newline :: _) rfl

/-- A row of pieces is cut where the first line break stands in only one way. -/
theorem Piece.cut_unique {ps rs ps' rs' : List Piece} (hps : ∀ p ∈ ps, Trivia.breaks p.gap = false)
    (hps' : ∀ p ∈ ps', Trivia.breaks p.gap = false)
    (hrs : ∀ p ∈ rs.head?, Trivia.breaks p.gap = true)
    (hrs' : ∀ p ∈ rs'.head?, Trivia.breaks p.gap = true) (h : ps ++ rs = ps' ++ rs') :
    ps = ps' ∧ rs = rs' := by
  have htake : ∀ {ps rs : List Piece}, (∀ p ∈ ps, Trivia.breaks p.gap = false) →
      (∀ p ∈ rs.head?, Trivia.breaks p.gap = true) →
      (ps ++ rs).takeWhile (fun p => !Trivia.breaks p.gap) = ps := by
    intro ps rs hps hrs
    exact (Lexer.takeWhile_eq (p := fun p : Piece => !Trivia.breaks p.gap) (by simpa using hps)
      (by simpa using hrs)).1
  have hfront : ps = ps' := by rw [← htake hps hrs, h, htake hps' hrs']
  subst hfront
  exact ⟨rfl, List.append_cancel_left h⟩

/-! ## Comments that come back -/

/-- The reader takes the lines of a comment, less the empty ones. -/
theorem Origin.lines_reread {o : Origin} (h : Comment.Trimmed o.comment) :
    o.reread.lines = o.lines.filter (· ≠ "") :=
  Comment.getD_reread h

namespace Statement

theorem callOrigins_mapExpr (f g : Origin → Origin) (s : Statement) :
    (s.mapExpr (Expr.mapOrigins f g)).callOrigins = s.callOrigins.map g := by
  match s with
  | .declare _ _ (.value e) => exact e.callOrigins_mapOrigins f g
  | .declare _ _ (.template _) => rfl
  | .expr e => exact e.callOrigins_mapOrigins f g

/-- Two statements with one comment and one shape are written alike. -/
theorem render_eq_of_shape {s t : Statement} (hcomment : s.origin.comment = t.origin.comment)
    (h : s.mapExpr Expr.shape = t.mapExpr Expr.shape) (width : Nat) :
    s.render width = t.render width := by
  have hexpr : ∀ {a b : Expr}, a.shape = b.shape → a.render width 0 = b.render width 0 :=
    fun h => Expr.render_eq_of_shape h width 0
  unfold render
  rw [hcomment]
  match s, t with
  | .declare _ _ (.value _), .declare _ _ (.value _) =>
    simp only [mapExpr, declare.injEq, Ident.mk.injEq, Binding.value.injEq] at h
    simp only [Binding.render, h.2.1.1, hexpr h.2.2]
  | .declare _ _ (.template _), .declare _ _ (.template _) =>
    simp only [mapExpr, declare.injEq, Ident.mk.injEq, Binding.template.injEq] at h
    simp only [Binding.render, h.2.1.1, h.2.2]
  | .expr _, .expr _ =>
    simp only [mapExpr, expr.injEq] at h
    simp only [hexpr h]
  | .declare _ _ (.value _), .declare _ _ (.template _) => simp [mapExpr] at h
  | .declare _ _ (.template _), .declare _ _ (.value _) => simp [mapExpr] at h
  | .declare _ _ (.value _), .expr _ => simp [mapExpr] at h
  | .declare _ _ (.template _), .expr _ => simp [mapExpr] at h
  | .expr _, .declare _ _ (.value _) => simp [mapExpr] at h
  | .expr _, .declare _ _ (.template _) => simp [mapExpr] at h

end Statement

section Programs

variable [Regex.Engine]

namespace Statement

/-- The comments on the calls of a statement that was parsed are trimmed. -/
theorem Parsed.calls {s : Statement} (h : s.Parsed) :
    ∀ o ∈ s.callOrigins, Comment.Trimmed o.comment := by
  match s with
  | .declare _ _ (.value _) => exact h.2.2.calls
  | .declare _ _ (.template _) => simp [callOrigins]
  | .expr e => exact Expr.Parsed.calls h

/-- The comments of a statement come back without their empty lines. -/
theorem ComesBack.commentLines {s s' : Statement} (h : s.ComesBack s') (hs : s.Parsed) :
    s'.commentLines = s.commentLines.filter (· ≠ "") := by
  have hown : s'.origin.lines = s.origin.lines.filter (· ≠ "") := by
    rw [Origin.lines, h.comment]
    exact Comment.getD_reread hs.comment
  have horigins : s'.callOrigins.map Origin.forgetPosition = s.callOrigins.map Origin.reread := by
    rw [← callOrigins_mapExpr .forget, ← callOrigins_mapExpr .forget, ← hs.reread_eq, ← h.tree]
    rfl
  have hcalls : s'.callOrigins.flatMap Origin.lines =
      (s.callOrigins.flatMap Origin.lines).filter (· ≠ "") := by
    calc s'.callOrigins.flatMap Origin.lines
        = (s'.callOrigins.map Origin.forgetPosition).flatMap Origin.lines := by
          rw [List.flatMap_map]
          rfl
      _ = s.callOrigins.flatMap fun o => o.reread.lines := by rw [horigins, List.flatMap_map]
      _ = s.callOrigins.flatMap fun o => o.lines.filter (· ≠ "") :=
          List.flatMap_congr fun o ho => Origin.lines_reread (hs.calls o ho)
      _ = (s.callOrigins.flatMap Origin.lines).filter (· ≠ "") := (List.filter_flatMap ..).symm
  rw [Statement.commentLines, Statement.commentLines, hown, hcalls, List.filter_append]

/-- What comes back for a statement is written as the statement was, unless empty lines are lost. -/
theorem ComesBack.render_eq {s s' : Statement} (h : s.ComesBack s') (hs : s.Parsed)
    (hne : "" ∉ s.commentLines) (width : Nat) : s'.render width = s.render width := by
  simp only [Statement.commentLines, List.mem_append, List.mem_flatMap, not_or, not_exists,
    not_and] at hne
  refine render_eq_of_shape (h.comment.trans (Comment.reread_eq hs.comment hne.1)) ?_ width
  have hcalls : ∀ o ∈ s.callOrigins, o.reread = o.forgetPosition := fun o ho =>
    congrArg (Origin.mk .start) (Comment.reread_eq (hs.calls o ho) (hne.2 o ho))
  rw [h.tree, hs.reread_eq]
  match s with
  | .declare _ _ (.value e) => simp only [mapExpr, e.mapOrigins_congr _ hcalls, Expr.shape]
  | .declare _ _ (.template _) => rfl
  | .expr e => simp only [mapExpr, e.mapOrigins_congr _ hcalls, Expr.shape]

end Statement

namespace Program

/-- The comments of a program come back without their empty lines. -/
theorem ComesBack.commentLines {p q : Program} (h : p.ComesBack q) (hp : p.Parsed)
    (htrailing : q.trailingComment = Comment.reread p.trailingComment) :
    q.commentLines = p.commentLines.filter (· ≠ "") := by
  obtain ⟨ds, ss, trailing⟩ := p
  obtain ⟨ds', ss', trailing'⟩ := q
  obtain ⟨hds, hss⟩ := h
  obtain ⟨hdbrps, hstatements, hend⟩ := hp
  simp only at hds hss hdbrps hstatements hend htrailing
  have hlines : ds'.flatMap (·.origin.lines) = (ds.flatMap (·.origin.lines)).filter (· ≠ "") := by
    induction hds with
    | nil => rfl
    | @cons d _ _ _ hd _ ih =>
      have hline := Comment.getD_reread (hdbrps d (by simp))
      rw [← hd.comment] at hline
      rw [List.flatMap_cons, List.flatMap_cons, List.filter_append,
        ih fun d hd => hdbrps d (by simp [hd])]
      exact congrArg (· ++ _) hline
  have hall : ss'.flatMap Statement.commentLines =
      (ss.flatMap Statement.commentLines).filter (· ≠ "") := by
    induction hss with
    | nil => rfl
    | cons hs _ ih =>
      rw [List.flatMap_cons, List.flatMap_cons, List.filter_append,
        ih fun s hs => hstatements s (by simp [hs]), hs.commentLines (hstatements _ (by simp))]
  simp only [Program.commentLines, hlines, hall, htrailing, Comment.getD_reread hend,
    List.filter_append]

/-- What comes back for a program is written as the program was, unless empty lines are lost. -/
theorem ComesBack.render_eq {p q : Program} (h : p.ComesBack q) (hp : p.Parsed)
    (htrailing : q.trailingComment = Comment.reread p.trailingComment)
    (hne : "" ∉ p.commentLines) (width : Nat) : q.render width = p.render width := by
  obtain ⟨ds, ss, trailing⟩ := p
  obtain ⟨ds', ss', trailing'⟩ := q
  obtain ⟨hds, hss⟩ := h
  obtain ⟨hdbrps, hstatements, hend⟩ := hp
  simp only [Program.commentLines, List.mem_append, List.mem_flatMap, not_or, not_exists,
    not_and] at hds hss hdbrps hstatements hend htrailing hne
  obtain ⟨⟨hneD, hneS⟩, hneT⟩ := hne
  rw [Comment.reread_eq hend hneT] at htrailing
  have hlines : ds'.map (DbrpLine.render width) = ds.map (DbrpLine.render width) := by
    induction hds with
    | nil => rfl
    | cons hd _ ih =>
      have hcomment := hd.comment.trans
        (Comment.reread_eq (hdbrps _ (by simp)) (hneD _ (by simp)))
      rw [List.map_cons, List.map_cons, ih (fun d hd => hdbrps d (by simp [hd]))
        fun d hd => hneD d (by simp [hd])]
      simp only [DbrpLine.render, hcomment, hd.database, hd.retentionPolicy]
  have hall : renderStatements width ss' = renderStatements width ss := by
    induction hss with
    | nil => rfl
    | cons hs hss ih =>
      have hrest := ih (fun s hs => hstatements s (by simp [hs])) fun s hs => hneS s (by simp [hs])
      have hone := hs.render_eq (hstatements _ (by simp)) (hneS _ (by simp)) width
      cases hss with
      | nil => simp only [renderStatements, hone]
      | cons _ _ => simp only [renderStatements, hone, hrest]
  have hemptyD : ds'.isEmpty = ds.isEmpty := by cases hds <;> rfl
  have hemptyS : ss'.isEmpty = ss.isEmpty := by cases hss <;> rfl
  have hbody : renderBody width ⟨ds', ss', trailing'⟩ = renderBody width ⟨ds, ss, trailing⟩ := by
    simp only [renderBody, hlines, hall, hemptyD, hemptyS]
  subst htrailing
  unfold render
  rw [hbody]

end Program

/-! ## The pieces of a text -/

namespace Program

/-- The pieces of a written program come off its text, and then only what stands at the end is
left. -/
theorem yields {p : Program} (h : p.WellFormed Number.HasLiteral) (hopen : p.regexesOpen = true)
    (width : Nat) : ∃ l, Yields (.start (p.render width)) (p.pieces width) l ∧
      Trivia.split l.rest = (p.endGap width, []) ∧ l.piece.kind = .eof := by
  obtain ⟨l, hyields, hrest, -⟩ := Lexer.yields_pieces (l := .start (p.render width))
    (p.source_pieces width) (p.spells_pieces h width)
    (p.spaced_pieces h.isLegal.statements width) (p.follows_pieces h.statements hopen width)
  exact ⟨l, hyields, Lexer.split_gap hrest (p.formed_endGap h.trailing width)⟩

/-- Two programs that are scanned as they are written and have one text have the same pieces. -/
theorem pieces_eq_of_render {p q : Program} (hp : p.WellFormed Number.HasLiteral)
    (hpOpen : p.regexesOpen = true) (hq : q.WellFormed Number.HasLiteral)
    (hqOpen : q.regexesOpen = true) {width : Nat} (h : q.render width = p.render width) :
    q.pieces width = p.pieces width ∧ q.endGap width = p.endGap width := by
  obtain ⟨l, hl, hsplit, heof⟩ := p.yields hp hpOpen width
  obtain ⟨l', hl', hsplit', heof'⟩ := q.yields hq hqOpen width
  rw [h] at hl'
  have hpieces : q.pieces width = p.pieces width :=
    (hl.isPrefix_of_eof heof hl').eq_of_length_le (hl'.isPrefix_of_eof heof' hl).length_le
  rw [hpieces] at hl'
  obtain rfl := hl.unique hl'
  exact ⟨hpieces, congrArg Prod.fst (hsplit'.symm.trans hsplit)⟩

/-- A regex that became a slash does not come back as what was written: a slash is written behind an
operand and with one blank before it, where no regex is written. -/
theorem clean_of_render {p q : Program} (hp : p.WellFormed Number.IsLegal) {width : Nat}
    (hq : parse (p.render width) = .ok q) (hwf : q.WellFormed Number.HasLiteral)
    (hopen : q.regexesOpen = true) (h : q.render width = p.render width) :
    p.WellFormed Number.HasLiteral ∧ p.regexesOpen = true := by
  rcases p.clean_or_misread hp hq with hclean | ⟨qs, b, rs, l, hpieces, hk, -, hyields⟩
  · exact hclean
  · obtain ⟨l', hl', -, heof⟩ := q.yields hwf hopen width
    rw [h] at hl'
    obtain ⟨rs', hpieces'⟩ := hl'.isPrefix_of_eof heof hyields
    have hregex := p.orderly_pieces hp.statements width
    have hslash := q.orderly_pieces hwf.statements width
    rw [hpieces] at hregex
    rw [← hpieces', List.append_assoc] at hslash
    obtain ⟨hbehind, hspace⟩ := (orderly_of_append hslash).1 rfl
    have hnot := (orderly_of_append hregex).2.1 hk hspace
    exact absurd (hbehind.symm.trans hnot) (by decide)

end Program

/-! ## Where statements start -/

/-- Behind its first gap, no gap of a statement starts with the ends of two lines. -/
theorem Statement.pieces_eq_cons_unbroken {ok : Number → Prop} {s : Statement}
    (h : s.WellFormed ok) (width : Nat) (g : List Trivia) :
    ∃ x xs, s.pieces width g = x :: xs ∧ x.gap = g ++ Comment.gap width 0 s.origin.comment ∧
      ∀ y ∈ xs, Trivia.breaks y.gap = false := by
  have hexpr : ∀ {e : Expr}, e.WellFormed ok → ∀ {g}, Trivia.breaks g = false →
      ∀ y ∈ e.pieces width 0 g, Trivia.breaks y.gap = false := fun he _ hg =>
    Expr.forall_pieces (P := fun y => Trivia.breaks y.gap = false)
      ⟨Trivia.inner_unbroken, fun hg _ => hg, fun hg _ => hg⟩ he width 0 hg
  match s with
  | .expr e =>
    obtain ⟨cs, ps, hpieces⟩ := e.pieces_eq_cons h.2 width 0
    have hall := hexpr h.2 (g := []) rfl
    rw [hpieces] at hall
    exact ⟨_, ps, hpieces _, rfl, fun y hy => hall y (by simp [hy])⟩
  | .declare _ name (.value e) =>
    have hall := hexpr h.2.2 (g := Trivia.space) rfl
    refine ⟨_, _, rfl, rfl, ?_⟩
    simpa [Binding.pieces, Trivia.breaks, Trivia.space] using hall
  | .declare _ name (.template type) =>
    refine ⟨_, _, rfl, rfl, ?_⟩
    simp [Binding.pieces, Trivia.breaks, Trivia.space]

namespace Program

/-- Statements start behind a blank line. -/
theorem breaks_statementPieces {ok : Number → Prop} {ss : List Statement}
    (h : ∀ s ∈ ss, s.WellFormed ok) (width : Nat) :
    ∀ x ∈ (statementPieces width [Trivia.newline, Trivia.newline] ss).head?,
      Trivia.breaks x.gap = true := by
  cases ss with
  | nil => simp [statementPieces]
  | cons s ss =>
    obtain ⟨x, xs, hpieces, hgap, -⟩ := s.pieces_eq_cons_unbroken (h s (by simp)) width
      [Trivia.newline, Trivia.newline]
    rw [statementPieces, hpieces]
    simp [hgap, Trivia.breaks]

/-- Statements with the same pieces account for the same tokens, one by one. -/
theorem kinds_eq_of_statementPieces {ok : Number → Prop} {ss ss' : List Statement}
    (h : ∀ s ∈ ss, s.WellFormed ok) (h' : ∀ s ∈ ss', s.WellFormed ok) {width : Nat}
    {g g' : List Trivia} (heq : statementPieces width g ss = statementPieces width g' ss') :
    ss.map Statement.kinds = ss'.map Statement.kinds := by
  induction ss generalizing ss' g g' with
  | nil =>
    cases ss' with
    | nil => rfl
    | cons s' ss' =>
      obtain ⟨x, xs, hpieces, -⟩ := s'.pieces_eq_cons_unbroken (h' s' (by simp)) width g'
      simp [statementPieces, hpieces] at heq
  | cons s ss ih =>
    obtain ⟨x, xs, hpieces, -, hxs⟩ := s.pieces_eq_cons_unbroken (h s (by simp)) width g
    cases ss' with
    | nil => simp [statementPieces, hpieces] at heq
    | cons s' ss' =>
      obtain ⟨x', xs', hpieces', -, hxs'⟩ := s'.pieces_eq_cons_unbroken (h' s' (by simp)) width g'
      have hrest := fun y hy => h y (List.mem_cons_of_mem s hy)
      have hrest' := fun y hy => h' y (List.mem_cons_of_mem s' hy)
      rw [statementPieces, statementPieces, hpieces, hpieces', List.cons_append, List.cons_append,
        List.cons.injEq] at heq
      obtain ⟨rfl, heq⟩ := heq
      obtain ⟨rfl, hmore⟩ := Piece.cut_unique hxs hxs' (breaks_statementPieces hrest width)
        (breaks_statementPieces hrest' width) heq
      have hkinds : s.kinds = s'.kinds := by
        rw [← s.traces_pieces (h s (by simp)) width g, hpieces, ← hpieces',
          s'.traces_pieces (h' s' (by simp))]
      rw [List.map_cons, List.map_cons, hkinds, ih hrest hrest' hmore]

/-- Behind `dbrp` lines the same pieces are left. -/
theorem statementPieces_eq {ok : Number → Prop} {ds ds' : List DbrpLine} {ss ss' : List Statement}
    (h : ∀ s ∈ ss, s.WellFormed ok) (h' : ∀ s ∈ ss', s.WellFormed ok) {width : Nat}
    {g g₁ g₂ : List Trivia}
    (heq : dbrpPieces width g ds ++ statementPieces width g₁ ss =
      dbrpPieces width g ds' ++ statementPieces width g₂ ss') :
    statementPieces width g₁ ss = statementPieces width g₂ ss' := by
  induction ds generalizing ds' g with
  | nil =>
    cases ds' with
    | nil => exact heq
    | cons d' ds' =>
      have hhead := head_statementPieces h width g₁
      have heq : statementPieces width g₁ ss = _ := heq
      rw [heq] at hhead
      exact absurd rfl (hhead _ rfl)
  | cons d ds ih =>
    cases ds' with
    | nil =>
      have hhead := head_statementPieces h' width g₂
      have heq : _ = statementPieces width g₂ ss' := heq
      rw [← heq] at hhead
      exact absurd rfl (hhead _ rfl)
    | cons d' ds' =>
      have hlength : (d.pieces width g).length = (d'.pieces width g).length := by
        simp [DbrpLine.pieces]
      rw [dbrpPieces, dbrpPieces, List.append_assoc, List.append_assoc] at heq
      exact ih (List.append_inj heq hlength).2

/-! ## Formatting again -/

/-- A program that was read and is formatted stays as it is when it is formatted again exactly if it
is reprintable and no comment that is written with it has an empty line. -/
theorem render_again_iff {source : String} {p : Program} (h : parse source = .ok p) (width : Nat) :
    (∃ q, parse (p.render width) = .ok q ∧ q.render width = p.render width) ↔
      p.Reprintable ∧ "" ∉ p.commentLines := by
  have hp := parsed h
  constructor
  · rintro ⟨q, hq, hrender⟩
    -- the text is what `q` is written as, so `q` is read from it as it stands
    obtain ⟨hqwf, hqopen⟩ := clean_of_kinds (parsed hq).wellFormed (hrender.symm ▸ hq) rfl
    obtain ⟨hliterals, hregexes⟩ := clean_of_render hp.wellFormed hq hqwf hqopen hrender
    obtain ⟨hpieces, hend⟩ := pieces_eq_of_render hliterals hregexes hqwf hqopen hrender
    have hkinds := kinds_eq_of_statementPieces hqwf.statements hliterals.statements
      (statementPieces_eq hqwf.statements hliterals.statements hpieces)
    obtain ⟨hapart, hneed⟩ := apart_of_parse hliterals hregexes hq hkinds
    refine ⟨⟨hliterals, hregexes, hapart, hneed⟩, ?_⟩
    -- and `q` has the lines that come back
    obtain ⟨q', hq', hback, htrailing⟩ := parse_render hliterals hregexes hapart hneed width
    obtain rfl : q = q' := Except.ok.inj (hq.symm.trans hq')
    have hlines : q.commentLines = p.commentLines := by
      refine Comment.body_injective.list_map ?_
      rw [← q.bodies_pieces width, ← p.bodies_pieces width, hpieces, hend]
    rw [← hlines, hback.commentLines hp (htrailing.trans (p.commentOf_endGap width))]
    simp
  · rintro ⟨⟨hliterals, hregexes, hapart, hneed⟩, hne⟩
    obtain ⟨q, hq, hback, htrailing⟩ := parse_render hliterals hregexes hapart hneed width
    exact ⟨q, hq, hback.render_eq hp (htrailing.trans (p.commentOf_endGap width)) hne width⟩

end Program

namespace Command

/-- A text is formatted if it is a program, to what is written for the program. -/
theorem formatSource_eq_ok {source text : String} :
    formatSource source = .ok text ↔ ∃ p, Program.parse source = .ok p ∧ p.format = text := by
  unfold formatSource parseSource
  cases Program.parse source with
  | ok p => simp [bind, Except.bind, pure, Except.pure]
  | error e => simp [bind, Except.bind]

/-- A text that was formatted stays as it is when it is formatted again exactly if the program it
was formatted from is reprintable and none of its comments has an empty line. -/
theorem formatSource_again_iff {source text : String} (h : formatSource source = .ok text) :
    formatSource text = .ok text ↔
      ∃ p, Program.parse source = .ok p ∧ p.Reprintable ∧ "" ∉ p.commentLines := by
  obtain ⟨p, hp, rfl⟩ := formatSource_eq_ok.1 h
  rw [formatSource_eq_ok]
  refine (Program.render_again_iff hp Program.defaultWidth).trans
    ⟨fun hstays => ⟨p, hp, hstays⟩, ?_⟩
  rintro ⟨p', hp', hstays⟩
  obtain rfl : p = p' := Except.ok.inj (hp.symm.trans hp')
  exact hstays

end Command

end Programs

/-- The mark of an empty comment is lost when it is formatted again. One with text stays. -/
theorem Command.formatSource_again_iff_comment :
    (formatSource "// \na" = .ok "//\na\n" ∧ formatSource "//\na\n" = .ok "a\n" ∧
      ¬ ∃ p, Program.parse "// \na" = .ok p ∧ p.Reprintable ∧ "" ∉ p.commentLines) ∧
    formatSource "//b\na" = .ok "// b\na\n" ∧
      ∃ p, Program.parse "//b\na" = .ok p ∧ p.Reprintable ∧ "" ∉ p.commentLines := by
  have hempty : formatSource "// \na" = .ok "//\na\n" := by decide +kernel
  have hlost : formatSource "//\na\n" = .ok "a\n" := by decide +kernel
  have htext : formatSource "//b\na" = .ok "// b\na\n" := by decide +kernel
  have hstays : formatSource "// b\na\n" = .ok "// b\na\n" := by decide +kernel
  refine ⟨⟨hempty, hlost, fun h => ?_⟩, htext, (formatSource_again_iff htext).1 hstays⟩
  rw [(formatSource_again_iff hempty).2 h] at hlost
  simp at hlost

end Tickscript
