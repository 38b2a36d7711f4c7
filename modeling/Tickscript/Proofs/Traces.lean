import Tickscript.Proofs.RereadPrograms

/-!
# Traces of written tokens

The pieces of a tree leave the traces that the tokens of the tree left when it was read
(`Program.traces_pieces`). So if a text is read as a program that is the same as the one it was
written for, its tokens are the pieces up to parentheses.
-/

namespace Tickscript

/-- What some pieces leave in a tree. -/
def Piece.traces (ps : List Piece) : List Kind := ps.filterMap fun p => p.kind.trace?

namespace Piece

@[simp]
theorem traces_nil : traces [] = [] := rfl

@[simp]
theorem traces_cons (p : Piece) (ps : List Piece) :
    traces (p :: ps) = p.kind.trace?.toList ++ traces ps := by
  cases h : p.kind.trace? <;> simp [traces, h]

@[simp]
theorem traces_append (ps qs : List Piece) : traces (ps ++ qs) = traces ps ++ traces qs := by
  simp [traces]

/-- Parentheses leave no trace. -/
theorem traces_enclosed {parens : Bool} {g : List Trivia} {inside : List Trivia → List Piece}
    {ks : List Kind} (h : ∀ g, traces (inside g) = ks) :
    traces (enclosed parens g inside) = ks := by
  unfold enclosed
  split <;> simp [h, Kind.trace?]

end Piece

/-- Every binary operator leaves its trace. -/
theorem BinaryOp.trace?_kind (op : BinaryOp) : op.kind.trace? = some op.kind := by
  cases op <;> rfl

/-- Every unary operator leaves its trace. -/
theorem UnaryOp.trace?_kind (op : UnaryOp) : op.kind.trace? = some op.kind := by
  cases op <;> rfl

/-- A call leaves the traces of its mark and of its name. -/
theorem CallKind.traces_lead (kind : CallKind) (g : List Trivia) (name : String) :
    Piece.traces (kind.lead g name) = kind.kind?.toList ++ [.identifier] := by
  cases kind <;> rfl

section

variable [Regex.Engine]

mutual

/-- The pieces of an expression leave the traces of its tokens. -/
theorem Expr.traces_pieces {ok : Number → Prop} {e : Expr} (h : e.WellFormed ok)
    (width level : Nat) (g : List Trivia) : Piece.traces (e.pieces width level g) = e.kinds := by
  match e with
  | .number .. | .string .. | .duration .. | .regex .. | .bool .. | .star .. | .identifier ..
  | .reference .. => simp [Expr.pieces, Expr.kinds, Kind.trace?]
  | .list _ es =>
    simp [Expr.pieces, Expr.kinds, Kind.trace?, @Expr.traces_piecesList ok es h width level]
  | .lambda _ b =>
    simp [Expr.pieces, Expr.kinds, Kind.trace?, Expr.traces_pieces (e := b) h width level]
  | .unary _ op x =>
    have ih := fun g => Expr.traces_pieces (e := x) h width level g
    simp [Expr.pieces, Expr.kinds, op.trace?_kind, Piece.traces_enclosed ih]
  | .binary _ op l r p =>
    have ihl := fun g => Expr.traces_pieces (e := l) h.1 width level g
    have ihr := fun g => Expr.traces_pieces (e := r) h.2 width level g
    refine Piece.traces_enclosed fun g => ?_
    simp [Expr.kinds, op.trace?_kind, Piece.traces_enclosed ihl, Piece.traces_enclosed ihr]
  | .function c => exact Call.traces_pieces (c := c) h.2 width level g
  | .chain _ s cs =>
    have ih := @Call.traces_piecesList ok cs h.2 width level
    have hk := h.1.spells.2
    simp only [List.mem_cons, List.not_mem_nil, or_false] at hk
    rcases hk with hk | hk | hk <;> simp [Expr.pieces, Expr.kinds, hk, Kind.trace?, ih]

theorem Call.traces_pieces {ok : Number → Prop} {c : Call} (h : c.WellFormed ok)
    (width level : Nat) (g : List Trivia) : Piece.traces (c.pieces width level g) = c.kinds := by
  match c with
  | .mk _ kind name args =>
    simp [Call.pieces, Call.kinds, CallKind.traces_lead, Kind.trace?,
      @Expr.traces_piecesList ok args h.2 width level]

theorem Expr.traces_piecesList {ok : Number → Prop} {es : List Expr}
    (h : Expr.WellFormedList ok es) (width level : Nat) (g : List Trivia) :
    Piece.traces (Expr.piecesList width level g es) = Expr.kindsList es := by
  match es with
  | [] => rfl
  | [e] => exact Expr.traces_pieces (e := e) h.1 width level g
  | e :: e' :: es =>
    have ih := Expr.traces_pieces (e := e) h.1 width level g
    have ihs := @Expr.traces_piecesList ok (e' :: es) h.2 width level Trivia.space
    simp [Expr.piecesList, Expr.kindsList, ih, ihs, Kind.trace?]

theorem Call.traces_piecesList {ok : Number → Prop} {cs : List Call}
    (h : Call.WellFormedList ok cs) (width level : Nat) :
    Piece.traces (Call.piecesList width level cs) = Call.kindsList cs := by
  match cs with
  | [] => rfl
  | c :: cs =>
    simp [Call.piecesList, Call.kindsList, Call.traces_pieces (c := c) h.2.2.1,
      @Call.traces_piecesList ok cs h.2.2.2 width level]

end

/-- The pieces of a statement leave the traces of its tokens. -/
theorem Statement.traces_pieces {ok : Number → Prop} {s : Statement} (h : s.WellFormed ok)
    (width : Nat) (g : List Trivia) : Piece.traces (s.pieces width g) = s.kinds := by
  match s with
  | .expr e => exact e.traces_pieces h.2 width 0 _
  | .declare _ name (.value e) =>
    simp [Statement.pieces, Binding.pieces, Statement.kinds, Kind.trace?,
      e.traces_pieces h.2.2 width 0]
  | .declare _ name (.template type) => cases type <;> rfl

end

namespace Program

/-- The pieces of statements leave their traces one behind the other. -/
theorem traces_statementPieces [Regex.Engine] {ok : Number → Prop} {ss : List Statement}
    (h : ∀ s ∈ ss, s.WellFormed ok) (width : Nat) (g : List Trivia) :
    Piece.traces (statementPieces width g ss) = ss.flatMap Statement.kinds := by
  induction ss generalizing g with
  | nil => rfl
  | cons s ss ih =>
    rw [statementPieces, Piece.traces_append, s.traces_pieces (h s (by simp)),
      ih fun x hx => h x (by simp [hx]), List.flatMap_cons]

/-- Each line of databases leaves the same traces. -/
theorem traces_dbrpPieces (width : Nat) (g : List Trivia) (ds : List DbrpLine) :
    Piece.traces (dbrpPieces width g ds) = ds.flatMap fun _ => DbrpLine.kinds := by
  induction ds generalizing g with
  | nil => rfl
  | cons d ds ih =>
    rw [dbrpPieces, Piece.traces_append, ih, List.flatMap_cons]
    rfl

/-- The pieces of a program leave the traces that it accounts for. -/
theorem traces_pieces [Regex.Engine] {ok : Number → Prop} {p : Program}
    (h : ∀ s ∈ p.statements, s.WellFormed ok)
    (width : Nat) : Piece.traces (p.pieces width) = p.kinds := by
  rw [pieces, Piece.traces_append, traces_dbrpPieces, traces_statementPieces h, kinds]

end Program

/-! ## Trees that are the same -/

section

variable (f g : Origin → Origin)

mutual

/-- Places and comments leave no trace. -/
theorem Expr.kinds_mapOrigins (e : Expr) : (e.mapOrigins f g).kinds = e.kinds := by
  match e with
  | .number .. | .string .. | .duration .. | .regex .. | .bool .. | .star .. | .identifier ..
  | .reference .. => rfl
  | .list _ es => simp [Expr.mapOrigins, Expr.kinds, Expr.kindsList_mapOrigins es]
  | .lambda _ b => simp [Expr.mapOrigins, Expr.kinds, b.kinds_mapOrigins]
  | .unary _ _ x => simp [Expr.mapOrigins, Expr.kinds, x.kinds_mapOrigins]
  | .binary _ _ l r _ => simp [Expr.mapOrigins, Expr.kinds, l.kinds_mapOrigins, r.kinds_mapOrigins]
  | .function c => exact c.kinds_mapOrigins f
  | .chain _ _ cs => simp [Expr.mapOrigins, Expr.kinds, Call.kindsList_mapOrigins cs]

theorem Call.kinds_mapOrigins (own : Origin → Origin) (c : Call) :
    (c.mapOrigins f g own).kinds = c.kinds := by
  match c with
  | .mk _ _ _ args => simp [Call.mapOrigins, Call.kinds, Expr.kindsList_mapOrigins args]

theorem Expr.kindsList_mapOrigins (es : List Expr) :
    Expr.kindsList (Expr.mapOriginsList f g es) = Expr.kindsList es := by
  match es with
  | [] => rfl
  | [e] => exact e.kinds_mapOrigins
  | e :: e' :: es =>
    have ihs := Expr.kindsList_mapOrigins (e' :: es)
    simp only [Expr.mapOriginsList] at ihs
    simp [Expr.mapOriginsList, Expr.kindsList, e.kinds_mapOrigins, ihs]

theorem Call.kindsList_mapOrigins (cs : List Call) :
    Call.kindsList (Call.mapOriginsList f g cs) = Call.kindsList cs := by
  match cs with
  | [] => rfl
  | c :: cs =>
    simp [Call.mapOriginsList, Call.kindsList, c.kinds_mapOrigins g, Call.kindsList_mapOrigins cs]

end

end

namespace Statement

/-- Two statements are the same if nothing but their origins differs. -/
theorem sameAs_iff (s t : Statement) :
    s.sameAs t = true ↔ s.mapExpr Expr.core = t.mapExpr Expr.core := by
  match s, t with
  | .declare _ _ (.value a), .declare _ _ (.value b) => simp [sameAs, mapExpr, Expr.sameAs_iff]
  | .declare _ _ (.template _), .declare _ _ (.template _) => simp [sameAs, mapExpr]
  | .expr a, .expr b => simp [sameAs, mapExpr, Expr.sameAs_iff]
  | .declare _ _ (.value _), .declare _ _ (.template _) => simp [sameAs, mapExpr]
  | .declare _ _ (.template _), .declare _ _ (.value _) => simp [sameAs, mapExpr]
  | .declare _ _ (.value _), .expr _ => simp [sameAs, mapExpr]
  | .declare _ _ (.template _), .expr _ => simp [sameAs, mapExpr]
  | .expr _, .declare _ _ (.value _) => simp [sameAs, mapExpr]
  | .expr _, .declare _ _ (.template _) => simp [sameAs, mapExpr]

/-- What leaves the traces of expressions leaves those of statements. -/
theorem kinds_mapExpr {f : Expr → Expr} (hf : ∀ e, (f e).kinds = e.kinds) (s : Statement) :
    (s.mapExpr f).kinds = s.kinds := by
  match s with
  | .declare _ _ (.value e) => simp [mapExpr, kinds, hf]
  | .declare _ _ (.template _) => rfl
  | .expr e => exact hf e

/-- Statements that are the same account for the same tokens. -/
theorem kinds_eq_of_sameAs {s t : Statement} (h : s.sameAs t = true) : s.kinds = t.kinds := by
  have hcore : ∀ e : Expr, e.core.kinds = e.kinds := fun e => e.kinds_mapOrigins ..
  rw [← kinds_mapExpr hcore s, (sameAs_iff s t).1 h, kinds_mapExpr hcore t]

end Statement

namespace Program

/-- Lists are compared element by element. -/
theorem allSame_iff {α : Type} {same : α → α → Bool} {as bs : List α} :
    allSame same as bs = true ↔ List.Forall₂ (fun a b => same a b = true) as bs := by
  induction as generalizing bs with
  | nil => cases bs <;> simp [allSame]
  | cons a as ih => cases bs <;> simp [allSame, ih]

/-- Programs that are the same account for the same tokens, statement by statement. -/
theorem kinds_eq_of_sameAs {p q : Program} (h : q.sameAs p = true) :
    q.statements.map Statement.kinds = p.statements.map Statement.kinds ∧ q.kinds = p.kinds := by
  rw [sameAs, Bool.and_eq_true, allSame_iff, allSame_iff] at h
  obtain ⟨ds, ss, trailing⟩ := p
  obtain ⟨ds', ss', trailing'⟩ := q
  obtain ⟨hds, hss⟩ := h
  simp only at hds hss
  have hmap : ss'.map Statement.kinds = ss.map Statement.kinds := by
    induction hss with
    | nil => rfl
    | cons hs _ ih => rw [List.map_cons, List.map_cons, Statement.kinds_eq_of_sameAs hs, ih]
  have hdbrps : (ds'.flatMap fun _ => DbrpLine.kinds) = ds.flatMap fun _ => DbrpLine.kinds := by
    induction hds with
    | nil => rfl
    | cons _ _ ih => rw [List.flatMap_cons, List.flatMap_cons, ih]
  have hflat : ss'.flatMap Statement.kinds = ss.flatMap Statement.kinds := by
    rw [List.flatMap_def, List.flatMap_def, hmap]
  refine ⟨hmap, ?_⟩
  simp only [kinds, hdbrps, hflat]

end Program

end Tickscript
