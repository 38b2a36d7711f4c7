import Tickscript.Proofs.RegexPlaces

/-!
# Scanning a written program

The facts about the pieces of expressions, put together for whole programs: they are written as
they should be, they keep apart, and they are in order. So the tokens of a written program are its
pieces (`Program.scans`), if it has a literal for each of its values and its regexes stand where
they are found (`Program.regexesOpen`).
-/

namespace Tickscript

open Lexer (Spells regexMayFollow lastKind)
open Trivia (Formed)

/-! ## Pieces and tokens -/

/-- Tokens that go with pieces lead over these pieces. -/
theorem Cursor.shows_ofList {ts : List Token} {ps : List Piece}
    (hwords : ts.map Token.word = ps.map Piece.word) (hps : ∀ p ∈ ps, p.kind ≠ .eof) (u : Token)
    (us : List Token) : Shows (ofList (ts ++ u :: us)) ps (ofList (u :: us)) := by
  induction ts generalizing ps with
  | nil =>
    cases ps with
    | nil => exact .nil _
    | cons p ps => cases hwords
  | cons t ts ih =>
    cases ps with
    | nil => cases hwords
    | cons p ps =>
      rw [List.map_cons, List.map_cons, List.cons.injEq] at hwords
      have hadv : (ofList (t :: ts ++ u :: us)).advance = ofList (ts ++ u :: us) := by
        cases ts <;> rfl
      refine .cons (c := ofList (t :: ts ++ u :: us)) hwords.1 (hps p (by simp)) ?_
      rw [hadv]
      exact ih hwords.2 fun q hq => hps q (by simp [hq])

/-- A source that is made of pieces which are found where they stand has these pieces for
tokens. -/
theorem tokenize_pieces {source : String} {ps : List Piece} {g : List Trivia}
    (hsource : source.toList = Piece.sourceOf ps ++ Trivia.textOf g)
    (hps : ∀ p ∈ ps, Formed p.gap ∧ Spells p.kind p.text)
    (hspaced : Spaced ps (Trivia.textOf g)) (hfollows : Lexer.Follows none ps) (hg : Formed g) :
    ∃ c, Cursor.Shows (.ofList (tokenize source)) ps c ∧ c.current.kind = .eof ∧
      c.current.comment = Trivia.commentOf g := by
  obtain ⟨l, hyields, hrest, -⟩ := Lexer.yields_pieces (l := .start source) hsource hps hspaced
    hfollows
  obtain ⟨ts, hts, hwords⟩ := hyields.tokens fun p hp => (hps p hp).2.kind_ne.2
  have hlast := Lexer.tokens_gap hrest hg
  obtain ⟨t, htokens⟩ : ∃ t, l.tokens = [t] := by
    rw [← List.length_eq_one_iff, ← List.length_map (f := Token.word), hlast]
    rfl
  rw [htokens] at hts hlast
  simp only [List.map_cons, List.map_nil, List.cons.injEq, and_true, Token.word,
    Prod.mk.injEq] at hlast
  refine ⟨.ofList [t], ?_, hlast.1, hlast.2.2⟩
  rw [tokenize, hts]
  exact Cursor.shows_ofList hwords (fun p hp => (hps p hp).2.kind_ne.1) t []

/-! ## Lines and the end -/

/-- What stands behind the last statement is a run of blanks and of comments. -/
theorem Program.formed_endGap {p : Program} (h : Comment.HasLines p.trailingComment)
    (width : Nat) : Formed (p.endGap width) := by
  have hnewline : Formed (if p.dbrps.isEmpty && p.statements.isEmpty then [] else
      [Trivia.newline]) := by
    split
    · exact .nil
    · exact Trivia.formed_newline .nil
  unfold endGap
  refine hnewline.append ?_
  split
  · exact .nil
  · next lines hlines => exact hnewline.append (Comment.formed_gap (hlines ▸ h) width 0)

namespace Program

/-- The lines of databases keep apart from each other and from what stands behind them. -/
theorem spaced_dbrpPieces {ds : List DbrpLine} (width : Nat) (g : List Trivia) {after : List Char}
    (hafter : Bounds after) : Spaced (dbrpPieces width g ds) after ∧
      Bounds (Piece.sourceOf (dbrpPieces width [Trivia.newline] ds) ++ after) := by
  induction ds generalizing g with
  | nil => exact ⟨trivial, hafter⟩
  | cons d ds ih =>
    obtain ⟨hspaced, hbounds⟩ := ih [Trivia.newline]
    refine ⟨spaced_append.2 ⟨?_, hspaced⟩, ?_⟩
    · refine ⟨Bounds.keepsApart ?_ _, fun _ _ => rfl, fun _ _ => rfl, .single hbounds⟩
      exact bounds_cons (c := ' ') (by decide) _
    · exact bounds_cons (c := '\n') (by decide) _

/-- In the lines of databases operands and operators alternate, each line ending in an operand. -/
theorem orderly_dbrpPieces (width : Nat) (g : List Trivia) (ds : List DbrpLine) (before : Bool) :
    OrderlyTo before (dbrpPieces width g ds) (before || !ds.isEmpty) := by
  induction ds generalizing before g with
  | nil => exact ⟨trivial, by simp [dbrpPieces]⟩
  | cons d ds ih =>
    refine @OrderlyTo.append _ true _ _ _ ?_ ?_
    · exact .cons (by simp) (by simp) (.cons (by simp) (by simp) (.cons (by simp) (by simp)
        (.cons (by simp) (by simp) ⟨trivial, rfl⟩)))
    · simpa using ih [Trivia.newline] true

end Program

/-! ## Where regexes are found -/

/-- Behind a row of pieces that ends in an operand a slash divides. -/
theorem OrderlyTo.regexMayFollow {ps : List Piece} {before : Bool} (h : OrderlyTo before ps true)
    (hne : ps ≠ []) (last : Option Kind) : regexMayFollow (lastKind last ps) = false := by
  obtain ⟨qs, p, rfl⟩ := List.eq_nil_or_concat ps |>.resolve_left hne
  have hends := h.2
  rw [List.concat_eq_append, List.foldl_append] at hends
  rw [List.concat_eq_append, lastKind, List.foldl_append]
  exact Lexer.regexMayFollow_of_endsOperand hends

namespace Statement

/-- Whether every regex of a written statement stands where one is found. -/
def regexesOpen (allowed : Bool) : Statement → Bool
  | declare _ _ (.value e) => e.regexesOpen true
  | declare _ _ (.template _) => true
  | expr e => e.regexesOpen allowed

/-- The regexes of a written statement stand where the tree says. -/
theorem opens_pieces_iff (width : Nat) (last : Option Kind) (g : List Trivia) (s : Statement) :
    OpensRegexes last (s.pieces width g) ↔ s.regexesOpen (regexMayFollow last) = true := by
  match s with
  | .expr e => exact e.opens_pieces_iff width 0 last _
  | .declare _ name (.value e) =>
    have h := e.opens_pieces_iff width 0 (some .assign) Trivia.space
    simpa [pieces, Binding.pieces, OpensRegexes, regexesOpen, regexMayFollow] using h
  | .declare _ name (.template type) =>
    have hk : Lexer.wordKind type.name ≠ .regex := by cases type <;> decide
    simp [pieces, Binding.pieces, OpensRegexes, regexesOpen, hk]

end Statement

namespace Program

/-- Whether every regex of written statements stands where one is found. -/
def regexesOpenFrom (allowed : Bool) : List Statement → Bool
  | [] => true
  | s :: ss => s.regexesOpen allowed && regexesOpenFrom false ss

/-- Whether every regex of a written program stands where one is found. In front of a statement
that is only so if nothing comes before it. -/
def regexesOpen (p : Program) : Bool := regexesOpenFrom p.dbrps.isEmpty p.statements

end Program

variable [Regex.Engine]

/-! ## Texts and gaps -/

section Texts

variable {ok : Number → Prop} {P : Piece → Prop} (hP : Piece.Covers ok Formed P)

include hP

/-- Every piece of a statement has a property that its tokens and gaps have. -/
theorem Statement.forall_pieces {s : Statement} (h : s.WellFormed ok) (width : Nat)
    {g : List Trivia} (hg : Formed g) : ∀ p ∈ s.pieces width g, P p := by
  have hgap : Formed (g ++ Comment.gap width 0 s.origin.comment) :=
    hg.append (Comment.formed_gap h.1 width 0)
  match s with
  | .expr e => exact Expr.forall_pieces hP h.2 width 0 hgap
  | .declare o name bd =>
    have hvar : Spells .var "var".toList := Lexer.spells_keyword (by decide)
    have hassign : Spells .assign ['='] := .symbol (by decide)
    have hspace := Trivia.formed_space
    intro p hp
    rcases List.mem_cons.1 hp with rfl | hp
    · exact hP.token hgap hvar
    match bd with
    | .value e =>
      rcases List.mem_cons.1 hp with rfl | hp
      · exact hP.token hspace h.2.1
      rcases List.mem_cons.1 hp with rfl | hp
      · exact hP.token hspace hassign
      · exact Expr.forall_pieces hP h.2.2 width 0 hspace p hp
    | .template type =>
      rcases List.mem_cons.1 hp with rfl | hp
      · exact hP.token hspace h.2
      rcases List.mem_cons.1 hp with rfl | hp
      · exact hP.token hspace type.spells_name
      · cases hp

/-- Every piece of a program has a property that its tokens and gaps have. -/
theorem Program.forall_pieces {p : Program} (h : p.WellFormed ok) (width : Nat) :
    ∀ x ∈ p.pieces width, P x := by
  have hnewline : Formed [Trivia.newline] := Trivia.formed_newline .nil
  have hdbrps : ∀ ds : List DbrpLine, (∀ d ∈ ds, Comment.HasLines d.origin.comment) →
      ∀ g, Formed g → ∀ x ∈ dbrpPieces width g ds, P x := by
    intro ds hds
    induction ds with
    | nil => simp [dbrpPieces]
    | cons d ds ih =>
      intro g hg x hx
      have hgap := hg.append (Comment.formed_gap (hds d (by simp)) width 0)
      simp only [dbrpPieces, DbrpLine.pieces, List.cons_append, List.nil_append,
        List.mem_cons] at hx
      rcases hx with rfl | rfl | rfl | rfl | hx
      · exact hP.token hgap (Lexer.spells_keyword (by decide))
      · exact hP.token Trivia.formed_space (Quote.spells_reference _)
      · exact hP.token .nil (.symbol (by decide))
      · exact hP.token .nil (Quote.spells_reference _)
      · exact ih (fun d hd => hds d (by simp [hd])) _ hnewline x hx
  have hstatements : ∀ ss : List Statement, (∀ s ∈ ss, s.WellFormed ok) →
      ∀ g, Formed g → ∀ x ∈ statementPieces width g ss, P x := by
    intro ss hss
    induction ss with
    | nil => simp [statementPieces]
    | cons s ss ih =>
      intro g hg x hx
      rcases List.mem_append.1 hx with hx | hx
      · exact Statement.forall_pieces hP (hss s (by simp)) width hg x hx
      · exact ih (fun s hs => hss s (by simp [hs])) _ (Trivia.formed_newline hnewline) x hx
  intro x hx
  rcases List.mem_append.1 hx with hx | hx
  · exact hdbrps _ h.dbrps _ .nil x hx
  · refine hstatements _ h.statements _ ?_ x hx
    unfold statementsGap
    split
    · exact .nil
    · exact Trivia.formed_newline hnewline

end Texts

/-- What is known of the pieces of a well-formed program is known of its numbers. -/
theorem Program.WellFormed.of_pieces {ok ok' : Number → Prop} {P : Piece → Prop}
    (hnum : ∀ {g v}, ok v → P ⟨g, .number, v.render.toList⟩ → ok' v) {p : Program}
    (h : p.WellFormed ok) {width : Nat} (hps : ∀ x ∈ p.pieces width, P x) : p.WellFormed ok' := by
  have hstatements : ∀ ss : List Statement, (∀ s ∈ ss, s.WellFormed ok) →
      ∀ g, (∀ x ∈ statementPieces width g ss, P x) → ∀ s ∈ ss, s.WellFormed ok' := by
    intro ss hss
    induction ss with
    | nil => simp
    | cons s ss ih =>
      intro g hps
      have hs := hss s (by simp)
      have hs' : s.WellFormed ok' := by
        refine ⟨hs.1, ?_⟩
        have hin : ∀ x ∈ s.pieces width g, P x := fun x hx => hps x (List.mem_append_left _ hx)
        match s with
        | .expr e => exact hs.2.of_pieces hnum hin
        | .declare _ name (.value e) =>
          have he : ∀ x ∈ e.pieces width 0 Trivia.space, P x := fun x hx =>
            hin x (by simp [Statement.pieces, Binding.pieces, hx])
          exact ⟨hs.2.1, hs.2.2.of_pieces hnum he⟩
        | .declare _ name (.template type) => exact hs.2
      have ih := ih (fun x hx => hss x (by simp [hx])) _
        fun x hx => hps x (List.mem_append_right _ hx)
      intro x hx
      rcases List.mem_cons.1 hx with rfl | hx
      · exact hs'
      · exact ih x hx
  exact ⟨h.dbrps, hstatements _ h.statements _ fun x hx => hps x (List.mem_append_right _ hx),
    h.trailing⟩

/-- A program whose numbers have literals is one whose numbers are legal. -/
theorem Program.WellFormed.isLegal {p : Program} (h : p.WellFormed Number.HasLiteral) :
    p.WellFormed Number.IsLegal :=
  have hps : ∀ x ∈ p.pieces 0, True := fun _ _ => trivial
  h.of_pieces (fun hv _ => hv.isLegal) hps

/-- The pieces of a program are written tokens, behind gaps that are runs of blanks and comments. -/
theorem Program.written_pieces {p : Program} (h : p.WellFormed Number.IsLegal) (width : Nat) :
    ∀ x ∈ p.pieces width, Formed x.gap ∧ Lexer.Written x.kind x.text :=
  Program.forall_pieces
    ⟨Trivia.inner_formed, fun hg hk => ⟨hg, .inl hk⟩, fun hg hv => ⟨hg, hv.written⟩⟩ h width

/-- If all numbers have literals, each piece spells its token. -/
theorem Program.spells_pieces {p : Program} (h : p.WellFormed Number.HasLiteral) (width : Nat) :
    ∀ x ∈ p.pieces width, Formed x.gap ∧ Spells x.kind x.text :=
  Program.forall_pieces
    ⟨Trivia.inner_formed, fun hg hk => ⟨hg, hk⟩, fun hg hv => ⟨hg, hv.spells⟩⟩ h width

/-! ## Keeping apart -/

/-- The pieces of a statement keep apart from each other and from what stands behind them. -/
theorem Statement.spaced_pieces {s : Statement} (h : s.WellFormed Number.IsLegal) (width : Nat)
    (g : List Trivia) {after : List Char} (hafter : Bounds after) :
    Spaced (s.pieces width g) after := by
  match s with
  | .expr e => exact e.spaced_pieces h.2 width 0 _ hafter
  | .declare _ name (.value e) =>
    refine ⟨Bounds.keepsApart ?_ _, Bounds.keepsApart ?_ _, Bounds.keepsApart ?_ _,
      e.spaced_pieces h.2.2 width 0 _ hafter⟩
    · exact bounds_cons (c := ' ') (by decide) _
    · exact bounds_cons (c := ' ') (by decide) _
    · exact (e.starts_pieces h.2.2 width 0 _).bounds after
  | .declare _ name (.template type) =>
    refine ⟨Bounds.keepsApart ?_ _, Bounds.keepsApart ?_ _, .single hafter⟩
    · exact bounds_cons (c := ' ') (by decide) _
    · exact bounds_cons (c := ' ') (by decide) _

namespace Program

/-- So do the pieces of all statements. -/
theorem spaced_statementPieces {ss : List Statement} (h : ∀ s ∈ ss, s.WellFormed Number.IsLegal)
    (width : Nat) (g : List Trivia) {after : List Char} (hafter : Bounds after) :
    Spaced (statementPieces width g ss) after ∧
      Bounds (Piece.sourceOf (statementPieces width [Trivia.newline, Trivia.newline] ss) ++ after)
      := by
  induction ss generalizing g with
  | nil => exact ⟨trivial, hafter⟩
  | cons s ss ih =>
    obtain ⟨hspaced, hbounds⟩ :=
      ih (fun x hx => h x (by simp [hx])) [Trivia.newline, Trivia.newline]
    refine ⟨spaced_append.2 ⟨s.spaced_pieces (h s (by simp)) width g hbounds, hspaced⟩, ?_⟩
    rw [statementPieces, Piece.sourceOf_append, s.sourceOf_pieces]
    exact bounds_cons (c := '\n') (by decide) _

/-- The pieces of a program keep apart from each other and from what stands behind them. -/
theorem spaced_pieces {p : Program} (h : ∀ s ∈ p.statements, s.WellFormed Number.IsLegal)
    (width : Nat) : Spaced (p.pieces width) (Trivia.textOf (p.endGap width)) := by
  obtain ⟨ds, ss, trailing⟩ := p
  cases ds with
  | nil =>
    cases ss with
    | nil => trivial
    | cons s ss =>
      exact (spaced_statementPieces h width _ (bounds_cons (c := '\n') (by decide) _)).1
  | cons d ds =>
    have hend : Bounds (Trivia.textOf (endGap width ⟨d :: ds, ss, trailing⟩)) :=
      bounds_cons (c := '\n') (by decide) _
    have hss := spaced_statementPieces h width [Trivia.newline, Trivia.newline] hend
    exact spaced_append.2 ⟨(spaced_dbrpPieces width [] hss.2).1, hss.1⟩

end Program

/-! ## Operands and operators -/

namespace Statement

/-- In a statement operands and operators alternate, if no operand stands before it on its line. -/
theorem orderly_pieces {ok : Number → Prop} {s : Statement} (h : s.WellFormed ok) (width : Nat)
    {before : Bool} {g : List Trivia} (hg : before = false ∨ g.head? = some Trivia.newline) :
    ∃ after, OrderlyTo before (s.pieces width g) after := by
  have hgap : before = false ∨ g ++ Comment.gap width 0 s.origin.comment ≠ Trivia.space := by
    refine hg.imp_right fun hg hspace => ?_
    cases g with
    | nil => cases hg
    | cons t g => cases hg; cases hspace
  match s with
  | .expr e => exact ⟨true, e.orderly_pieces h.2 width 0 before _ hgap⟩
  | .declare _ name (.value e) =>
    exact ⟨true, .cons (by simp) (by simp) (.cons (by simp) (by simp)
      (.cons (by simp) (by simp) (e.orderly_pieces h.2.2 width 0 _ _ (.inl rfl))))⟩
  | .declare _ name (.template type) =>
    have hk : Lexer.wordKind type.name ≠ .slash ∧ Lexer.wordKind type.name ≠ .regex := by
      cases type <;> decide
    exact ⟨_, .cons (by simp) (by simp) (.cons (by simp) (by simp)
      (.cons hk.1 hk.2 ⟨trivial, rfl⟩))⟩

/-- A statement ends with no token behind which a slash opens a regex. -/
theorem regexMayFollow_pieces {ok : Number → Prop} {s : Statement} (h : s.WellFormed ok)
    (width : Nat) (g : List Trivia) (last : Option Kind) :
    regexMayFollow (lastKind last (s.pieces width g)) = false := by
  have hexpr : ∀ {e : Expr}, e.WellFormed ok → ∀ g last,
      regexMayFollow (lastKind last (e.pieces width 0 g)) = false := by
    intro e he g last
    refine (e.orderly_pieces he width 0 false g (.inl rfl)).regexMayFollow ?_ last
    obtain ⟨p, ps, hpieces, -⟩ := e.starts_pieces he width 0 g
    simp [hpieces]
  match s with
  | .expr e => exact hexpr h.2 _ _
  | .declare _ name (.value e) => exact hexpr h.2.2 _ _
  | .declare _ name (.template type) => cases type <;> rfl

end Statement

namespace Program

/-- In a row of statements operands and operators alternate. -/
theorem orderly_statementPieces {ok : Number → Prop} {ss : List Statement}
    (h : ∀ s ∈ ss, s.WellFormed ok) (width : Nat) {before : Bool} {g : List Trivia}
    (hg : before = false ∨ g.head? = some Trivia.newline) :
    ∃ after, OrderlyTo before (statementPieces width g ss) after := by
  induction ss generalizing before g with
  | nil => exact ⟨before, trivial, rfl⟩
  | cons s ss ih =>
    obtain ⟨between, hs⟩ := s.orderly_pieces (h s (by simp)) width hg
    obtain ⟨after, hss⟩ := @ih (fun x hx => h x (by simp [hx])) between
      [Trivia.newline, Trivia.newline] (.inr rfl)
    exact ⟨after, hs.append hss⟩

/-- In the pieces of a program operands and operators alternate. -/
theorem orderly_pieces {ok : Number → Prop} {p : Program}
    (h : ∀ s ∈ p.statements, s.WellFormed ok) (width : Nat) : Orderly false (p.pieces width) := by
  have hds := orderly_dbrpPieces width [] p.dbrps false
  have hgap : (false || !p.dbrps.isEmpty) = false ∨
      p.statementsGap.head? = some Trivia.newline := by
    unfold statementsGap
    cases p.dbrps with
    | nil => exact .inl rfl
    | cons d ds => exact .inr rfl
  obtain ⟨after, hss⟩ := orderly_statementPieces h width hgap
  exact (hds.append hss).1

/-- The regexes of written statements stand where the trees say. -/
theorem opens_statementPieces_iff {ok : Number → Prop} {ss : List Statement}
    (h : ∀ s ∈ ss, s.WellFormed ok) (width : Nat) (last : Option Kind) (g : List Trivia) :
    OpensRegexes last (statementPieces width g ss) ↔
      regexesOpenFrom (regexMayFollow last) ss = true := by
  induction ss generalizing last g with
  | nil => simp [statementPieces, OpensRegexes, regexesOpenFrom]
  | cons s ss ih =>
    have ih := ih (fun x hx => h x (by simp [hx])) (lastKind last (s.pieces width g))
      [Trivia.newline, Trivia.newline]
    rw [s.regexMayFollow_pieces (h s (by simp)) width g last] at ih
    rw [statementPieces, opensRegexes_append, s.opens_pieces_iff, ih, regexesOpenFrom,
      Bool.and_eq_true]

/-- Looking at the trees shows where the regexes of the written program stand. -/
theorem opens_pieces_iff {ok : Number → Prop} {p : Program}
    (h : ∀ s ∈ p.statements, s.WellFormed ok) (width : Nat) :
    OpensRegexes none (p.pieces width) ↔ p.regexesOpen = true := by
  have hds : ∀ (ds : List DbrpLine) (last : Option Kind) (g : List Trivia),
      OpensRegexes last (dbrpPieces width g ds) ∧
        regexMayFollow (lastKind last (dbrpPieces width g ds)) =
          (regexMayFollow last && ds.isEmpty) := by
    intro ds
    induction ds with
    | nil => simp [dbrpPieces, OpensRegexes, lastKind]
    | cons d ds ih =>
      intro last g
      obtain ⟨hopens, hlast⟩ := ih (some .reference) [Trivia.newline]
      refine ⟨by simpa [dbrpPieces, DbrpLine.pieces, OpensRegexes] using hopens, ?_⟩
      simpa [dbrpPieces, DbrpLine.pieces, lastKind, regexMayFollow] using hlast
  obtain ⟨hopens, hlast⟩ := hds p.dbrps none []
  rw [pieces, opensRegexes_append, opens_statementPieces_iff h, hlast]
  simp [hopens, regexesOpen, regexMayFollow]

end Program

/-! ## Programs read off their tokens -/

/-- The tokens of a written expression are its pieces. -/
theorem Expr.scans {e : Expr} (h : e.WellFormed Number.HasLiteral)
    (hopen : e.regexesOpen true = true) (width level : Nat) :
    ∃ c, Cursor.Shows (.ofList (tokenize (e.render width level))) (e.pieces width level []) c ∧
      c.current.kind = .eof := by
  have hsource : (e.render width level).toList =
      Piece.sourceOf (e.pieces width level []) ++ Trivia.textOf [] := by
    simp [e.sourceOf_pieces]
  have hps := Expr.forall_pieces (P := fun p => Formed p.gap ∧ Spells p.kind p.text)
    ⟨Trivia.inner_formed, fun hg hk => ⟨hg, hk⟩, fun hg hv => ⟨hg, hv.spells⟩⟩ h width level .nil
  have hfollows := @Lexer.follows_of_opensRegexes none _ _
    (e.orderly_pieces h width level false [] (.inl rfl)).1 (by simp)
    ((e.opens_pieces_iff width level none []).2 hopen)
  obtain ⟨c, hshows, heof, -⟩ := tokenize_pieces hsource hps
    (e.spaced_pieces h.isLegal width level [] fun _ h => by cases h) hfollows .nil
  exact ⟨c, hshows, heof⟩

/-- Every slash and every regex of a written program is found where it stands. -/
theorem Program.follows_pieces {ok : Number → Prop} {p : Program}
    (h : ∀ s ∈ p.statements, s.WellFormed ok) (hopen : p.regexesOpen = true) (width : Nat) :
    Lexer.Follows none (p.pieces width) :=
  Lexer.follows_of_opensRegexes (p.orderly_pieces h width) (by simp)
    ((p.opens_pieces_iff h width).2 hopen)

/-- The tokens of a written program are its pieces. -/
theorem Program.scans {p : Program} (h : p.WellFormed Number.HasLiteral)
    (hopen : p.regexesOpen = true) (width : Nat) :
    ∃ c, Cursor.Shows (.ofList (tokenize (p.render width))) (p.pieces width) c ∧
      c.current.kind = .eof ∧ c.current.comment = Trivia.commentOf (p.endGap width) := by
  exact tokenize_pieces (p.source_pieces width) (p.spells_pieces h width)
    (p.spaced_pieces h.isLegal.statements width) (p.follows_pieces h.statements hopen width)
    (p.formed_endGap h.trailing width)

end Tickscript
