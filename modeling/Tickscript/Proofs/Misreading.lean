import Tickscript.Proofs.Alignment
import Tickscript.Proofs.Rescanning

/-!
# Texts that are scanned as something else

A written program is scanned as its pieces, or there is a first piece that is not: a regex where a
slash divides, or an infinite number, for which there is no literal. The second leads to a point
with a number behind it, which no program has. So if a text is read at all, either its tokens are
the pieces it was written from, or the first that is not is a slash in the place of a regex
(`Program.clean_or_misread`).
-/

namespace Tickscript

open Lexer (Spells regexMayFollow lastKind Yields)
open Cursor (Took)

/-! ## Tokens and what they account for -/

theorem Lexer.next_kind (l : Lexer) : l.next.1.kind = l.piece.kind := rfl

/-- Tokens that are found for pieces have their kinds. -/
theorem Lexer.Yields.kinds {l l' : Lexer} {ps : List Piece} (h : Yields l ps l') :
    ∃ ts, l.tokens = ts ++ l'.tokens ∧ ts.map Token.kind = ps.map Piece.kind ∧
      ∀ t ∈ ts, t.kind ≠ .eof := by
  induction h with
  | nil l => exact ⟨[], rfl, rfl, by simp⟩
  | @cons l l' ps hne _ ih =>
    obtain ⟨ts, hts, hkinds, hall⟩ := ih
    refine ⟨l.next.1 :: ts, by rw [tokens_cons hne, hts]; rfl, ?_, ?_⟩
    · rw [List.map_cons, List.map_cons, hkinds, l.next_kind]
    · intro t ht
      rcases List.mem_cons.1 ht with rfl | ht
      · exact hne
      · exact hall t ht

/-- A program that was read accounts for the pieces that its source starts with. -/
theorem Program.kinds_of_yields [Regex.Engine] {source : String} {q : Program}
    (h : parse source = .ok q) {ps : List Piece} {l : Lexer} (hy : Yields (.start source) ps l) :
    Piece.traces ps <+: q.kinds := by
  obtain ⟨us, c, hus, heof, htraces, -⟩ := account_program h
  obtain ⟨ts, hts, hkinds, hall⟩ := hy.kinds
  obtain ⟨t, rest, hrest⟩ : ∃ t rest, l.tokens = t :: rest := by
    rw [Lexer.tokens]
    split
    · exact ⟨_, _, rfl⟩
    · exact ⟨_, _, rfl⟩
  have htook : Took (.ofList (tokenize source)) ts (.ofList (t :: rest)) := by
    rw [tokenize, hts, hrest]
    exact Cursor.took_ofList t rest hall
  have hinitial : ts <+: us := by
    rcases htook.prefix_total hus with h | h
    · exact h
    · -- behind the tokens of the program nothing is taken
      obtain ⟨vs, rfl⟩ := h
      obtain ⟨c₁, h₁, h₂⟩ := htook.append_inv
      obtain rfl := hus.unique h₁
      cases h₂ with
      | nil => rw [List.append_nil]
      | cons hne _ => exact absurd heof hne
  rw [← htraces, Piece.traces_eq_filterMap, ← hkinds, ← traces_eq_filterMap]
  obtain ⟨vs, rfl⟩ := hinitial
  rw [traces_append]
  exact List.prefix_append ..

/-! ## Points -/

/-- Behind every point stands a name. -/
def PointsNamed : List Kind → Prop
  | [] => True
  | k :: ks => (k = .dot → ks.head? = some .identifier ∨ ks.head? = some .reference) ∧
      PointsNamed ks

/-- Behind every point of two rows there is a name if it is so in each. -/
theorem PointsNamed.append {ks ks' : List Kind} (h : PointsNamed ks) (h' : PointsNamed ks') :
    PointsNamed (ks ++ ks') := by
  induction ks with
  | nil => exact h'
  | cons k ks ih =>
    refine ⟨fun hk => ?_, ih h.2⟩
    have hhead := h.1 hk
    cases ks with
    | nil => simp at hhead
    | cons x xs => exact hhead

theorem PointsNamed.cons {k : Kind} {ks : List Kind} (hk : k ≠ .dot) (h : PointsNamed ks) :
    PointsNamed (k :: ks) :=
  ⟨fun h => absurd h hk, h⟩

theorem PointsNamed.of_append {ks ks' : List Kind} (h : PointsNamed (ks ++ ks')) :
    PointsNamed ks' := by
  induction ks with
  | nil => exact h
  | cons k ks ih => exact ih h.2

theorem PointsNamed.single {k : Kind} (hk : k ≠ .dot) : PointsNamed [k] := .cons hk trivial

mutual

/-- Behind every point of an expression stands a name. -/
theorem Expr.pointsNamed (e : Expr) : PointsNamed e.kinds := by
  match e with
  | .number .. | .string .. | .duration .. | .regex .. | .bool .. | .star .. | .identifier ..
  | .reference .. => exact .single (by simp)
  | .list _ es => exact .cons (by simp) ((Expr.pointsNamedList es).append (.single (by simp)))
  | .lambda _ b => exact .cons (by simp) (.cons (by simp) b.pointsNamed)
  | .unary _ op x => exact .cons (by cases op <;> simp [UnaryOp.kind]) x.pointsNamed
  | .binary _ op l r _ =>
    exact l.pointsNamed.append (.cons (by cases op <;> simp [BinaryOp.kind]) r.pointsNamed)
  | .function c => exact c.pointsNamed
  | .chain _ _ cs => exact .cons (by simp) (Call.pointsNamedList cs)

theorem Call.pointsNamed (c : Call) : PointsNamed c.kinds := by
  match c with
  | .mk _ kind _ args =>
    have hname : PointsNamed (.identifier :: Expr.kindsList args) :=
      .cons (by simp) (Expr.pointsNamedList args)
    cases kind with
    | property => exact ⟨fun _ => .inl rfl, hname⟩
    | global => exact hname
    | _ => exact .cons (by simp) hname

theorem Expr.pointsNamedList (es : List Expr) : PointsNamed (Expr.kindsList es) := by
  match es with
  | [] => trivial
  | [e] => exact e.pointsNamed
  | e :: e' :: es => exact e.pointsNamed.append (.cons (by simp) (Expr.pointsNamedList (e' :: es)))

theorem Call.pointsNamedList (cs : List Call) : PointsNamed (Call.kindsList cs) := by
  match cs with
  | [] => trivial
  | c :: cs => exact c.pointsNamed.append (Call.pointsNamedList cs)

end

/-- So it is in a statement. -/
theorem Statement.pointsNamed (s : Statement) : PointsNamed s.kinds := by
  match s with
  | .declare _ _ (.value e) =>
    exact .cons (by simp) (.cons (by simp) (.cons (by simp) e.pointsNamed))
  | .declare _ _ (.template _) => simp [Statement.kinds, PointsNamed]
  | .expr e => exact e.pointsNamed

/-- And in a program, where the points of `dbrp` lines stand before the name of a policy. -/
theorem Program.pointsNamed (p : Program) : PointsNamed p.kinds := by
  refine .append ?_ ?_
  · induction p.dbrps with
    | nil => trivial
    | cons d ds ih => simpa [DbrpLine.kinds, PointsNamed] using ih
  · induction p.statements with
    | nil => trivial
    | cons s ss ih => exact s.pointsNamed.append ih

/-! ## The first piece that is misread -/

/-- What is written for infinity spells no number. -/
theorem Lexer.not_spells_infinity : ¬ Spells .number "inf.0".toList := by
  intro h
  have hcs : "inf.0".toList = ['i', 'n', 'f', '.', '0'] := rfl
  rw [hcs] at h
  cases h with
  | word hc hcs hk hnot =>
    have hpoint := hcs '.' (by simp)
    revert hpoint
    decide +kernel
  | number hc => cases hc
  | symbol h => simp [symbols] at h

/-- A number has a literal if what is written for it spells one. -/
theorem Number.IsLegal.hasLiteral_of_spells {v : Number} (h : v.IsLegal)
    (hs : Spells .number v.render.toList) : v.HasLiteral := by
  by_contra hno
  rw [Number.render_of_isLegal h hno] at hs
  exact Lexer.not_spells_infinity hs

/-- If a written program is read at all, its tokens are the pieces it was written from, or they are
up to a regex that became a slash. -/
theorem Program.clean_or_misread [Regex.Engine] {p : Program}
    (hp : p.WellFormed Number.IsLegal) {w : Nat} {q : Program} (h : parse (p.render w) = .ok q) :
    p.WellFormed Number.HasLiteral ∧ p.regexesOpen = true ∨
      ∃ qs b rs l, p.pieces w = qs ++ b :: rs ∧ b.kind = .regex ∧
        regexMayFollow (lastKind none qs) = false ∧
        Yields (.start (p.render w)) (qs ++ [⟨b.gap, .slash, ['/']⟩]) l := by
  have hwritten := p.written_pieces hp w
  rcases @Lexer.follows_or_misread _ none _ (fun x hx => (hwritten x hx).2)
    (p.orderly_pieces hp.statements w) (by simp) with
    ⟨hfollows, hspells⟩ | ⟨qs, b, rs, hpieces, hfollows, hspells, hmisread⟩
  · refine .inl ⟨?_, (p.opens_pieces_iff hp.statements w).1 hfollows.opensRegexes⟩
    exact hp.of_pieces (fun hv hs => hv.hasLiteral_of_spells hs) hspells
  · -- up to the piece `b` everything is scanned as it was written
    have hspaced := p.spaced_pieces hp.statements w
    rw [hpieces] at hspaced hwritten
    obtain ⟨hspaced, hspacedB⟩ := spaced_append.1 hspaced
    have hgap := fun x hx => (hwritten x hx).1
    have hrest : (Lexer.start (p.render w)).rest =
        Piece.sourceOf qs ++ (Piece.sourceOf (b :: rs) ++ Trivia.textOf (p.endGap w)) := by
      have hsource := p.source_pieces w
      rw [hpieces, Piece.sourceOf_append, List.append_assoc] at hsource
      exact hsource
    obtain ⟨l, hyields, hl, hlast⟩ := Lexer.yields_pieces hrest
      (fun x hx => ⟨hgap x (by simp [hx]), hspells x hx⟩) hspaced hfollows
    have hlrest : l.rest = b.source ++ (Piece.sourceOf rs ++ Trivia.textOf (p.endGap w)) := by
      rw [hl, ← List.append_assoc]
      rfl
    have hlast : l.last = lastKind none qs := hlast
    cases hmisread with
    | regex hk hb hno =>
      have hpiece := Lexer.piece_regex hlrest (hgap b (by simp)) hk hb (by rw [hlast, hno])
      refine .inr ⟨qs, b, rs, l.next.2, hpieces, hk, hno, hyields.append ?_⟩
      rw [← hpiece]
      exact .cons (by rw [hpiece]; simp) (.nil _)
    | infinity hk htext =>
      obtain ⟨h₁, h₂, h₃⟩ := Lexer.piece_infinity hlrest (hgap b (by simp)) htext
        (hk ▸ hspacedB.1)
      have hmore : Yields l [⟨b.gap, .identifier, "inf".toList⟩, ⟨[], .dot, ['.']⟩,
          ⟨[], .number, ['0']⟩] l.next.2.next.2.next.2 := by
        rw [← h₁, ← h₂, ← h₃]
        exact .cons (by rw [h₁]; simp)
          (.cons (by rw [h₂]; simp) (.cons (by rw [h₃]; simp) (.nil _)))
      -- a point with a number behind it is in no program, so `inf.0` cannot have been read
      obtain ⟨ks, hks⟩ := kinds_of_yields h (hyields.append hmore)
      have hpoints := q.pointsNamed
      rw [← hks, Piece.traces_append, List.append_assoc] at hpoints
      have hbad := hpoints.of_append.2.1 rfl
      simp [Kind.trace?] at hbad

end Tickscript
