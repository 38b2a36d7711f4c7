import Tickscript.Proofs.DerivedRuns
import Tickscript.Proofs.Rereading

/-!
# Reading a written program

What is read when the pieces of a program are: statement by statement what was written, if
statements keep apart from each other (`Program.apart`). Statements follow each other without
separators, so where one of them can go on with the first token of the next it does.

`Program.ComesBack` says what of a program comes back: everything but positions, with comments as
they are read (`Comment.reread`) and trees as in `Expr.reread`.
-/

namespace Tickscript

open Cursor (Shows)
open Reader (Outcome)

/-! ## Where statements end -/

namespace Statement

/-- The kind of the first token of a written statement. -/
def firstKind : Statement → Kind
  | declare .. => .var
  | expr e => e.firstKind

/-- Whether the written statement is at its end before a token of kind `k`. -/
def endsBefore (k : Kind) : Statement → Bool
  | declare _ _ (.value e) => (BinaryOp.ofKind? k).isNone && e.endsBefore k
  | declare _ _ (.template _) => true
  | expr e => (BinaryOp.ofKind? k).isNone && e.endsBefore k

/-- The levels of budget that reading the written statement takes. -/
def need : Statement → Nat
  | declare _ _ (.value e) => e.need
  | declare _ _ (.template _) => 0
  | expr e => e.need

/-- The statement without origins of its own, with another expression. -/
def mapExpr (f : Expr → Expr) : Statement → Statement
  | declare _ name (.value e) => declare default ⟨name.name, default⟩ (.value (f e))
  | declare _ name (.template type) => declare default ⟨name.name, default⟩ (.template type)
  | expr e => expr (f e)

/-- What comes back for a statement. -/
structure ComesBack (s s' : Statement) : Prop where
  comment : s'.origin.comment = Comment.reread s.origin.comment
  tree : s'.mapExpr Expr.shape = s.mapExpr Expr.reread

/-- At the end of input every statement is at its end. -/
theorem endsBefore_eof (s : Statement) : s.endsBefore .eof = true := by
  have h : ∀ e : Expr, e.endsBefore .eof = true :=
    fun e => e.endsBefore_of_close rfl (by decide) rfl
  match s with
  | .declare _ _ (.value e) => simp [endsBefore, BinaryOp.ofKind?, h]
  | .declare _ _ (.template _) => rfl
  | .expr e => simp [endsBefore, BinaryOp.ofKind?, h]

end Statement

namespace Program

/-- Every statement is at its end before the next one. -/
def apart : List Statement → Bool
  | s :: s' :: ss => s.endsBefore s'.firstKind && apart (s' :: ss)
  | _ => true

/-- The levels of budget that reading written statements takes. -/
def need : List Statement → Nat
  | [] => 0
  | s :: ss => max s.need (need ss)

theorem lines_statementsGap (p : Program) : p.statementsGap.flatMap Trivia.lines = [] := by
  unfold statementsGap
  split <;> rfl

end Program

/-! ## `dbrp` lines -/

/-- What comes back for a `dbrp` line. -/
structure DbrpLine.ComesBack (d d' : DbrpLine) : Prop where
  database : d'.database = d.database
  retentionPolicy : d'.retentionPolicy = d.retentionPolicy
  comment : d'.origin.comment = Comment.reread d.origin.comment

/-- What comes back for a program. -/
structure Program.ComesBack (p q : Program) : Prop where
  dbrps : List.Forall₂ DbrpLine.ComesBack p.dbrps q.dbrps
  statements : List.Forall₂ Statement.ComesBack p.statements q.statements

namespace DbrpLine

/-- The name in a written reference is read as it is. -/
theorem nameIn_reference {t : Token} {name : String} (hk : t.kind = .reference)
    (htext : t.text = Quote.reference name) : nameIn t = .ok name := by
  rw [nameIn, if_pos hk, htext, Quote.readReference_reference]

/-- What is written for a `dbrp` line is read as this line, whatever lines come behind it. -/
theorem derives_pieces {d : DbrpLine} {w : Nat} {g : List Trivia} {ds : List DbrpLine}
    {c c₁ c' : Cursor} (hc : Shows c (d.pieces w g) c₁) (hds : DerivesDbrps ds c₁ c') :
    DerivesDbrps (⟨d.database, d.retentionPolicy, .ofToken c.current⟩ :: ds) c c' := by
  obtain ⟨hk, -, -, -, hc⟩ := hc.cons_inv
  obtain ⟨hdb, hdbtext, -, -, hc⟩ := hc.cons_inv
  obtain ⟨hdot, -, -, -, hc⟩ := hc.cons_inv
  obtain ⟨hrp, hrptext, -, rfl⟩ := hc.single_inv
  rw [String.ofList_toList] at hdbtext hrptext
  exact .cons hk (.inl hdb) (nameIn_reference hdb hdbtext) hdot (.inl hrp)
    (nameIn_reference hrp hrptext) hds

/-- What is written for `dbrp` lines is read as these lines again. -/
theorem derives_dbrpPieces {ds : List DbrpLine} {w : Nat} {g : List Trivia}
    (hg : g.flatMap Trivia.lines = []) {c c' : Cursor}
    (hc : Shows c (Program.dbrpPieces w g ds) c') (hend : c'.current.kind ≠ .dbrp) :
    ∃ ds', DerivesDbrps ds' c c' ∧ List.Forall₂ ComesBack ds ds' := by
  induction ds generalizing g c with
  | nil =>
    obtain rfl := hc.nil_inv
    exact ⟨[], .nil hend, .nil⟩
  | cons d ds ih =>
    obtain ⟨c₁, hd, hds⟩ := Shows.append_inv hc
    obtain ⟨ds', hderives, hback⟩ := ih rfl hds
    have hcomment : c.current.comment = Comment.reread d.origin.comment := by
      obtain ⟨-, -, hcomment, -, -⟩ := hd.cons_inv
      rw [hcomment]
      simpa using @Comment.commentOf_gap g [] hg rfl w 0 d.origin.comment
    exact ⟨_, derives_pieces hd hderives, .cons ⟨rfl, rfl, hcomment⟩ hback⟩

end DbrpLine

variable [Regex.Engine]

/-! ## Statements -/

namespace Statement

/-- What stands in front of a statement does not matter behind its first piece. -/
theorem pieces_eq_cons {ok : Number → Prop} {s : Statement} (h : s.WellFormed ok) (width : Nat) :
    ∃ cs ps, ∀ g, s.pieces width g =
      ⟨g ++ Comment.gap width 0 s.origin.comment, s.firstKind, cs⟩ :: ps := by
  match s with
  | .declare .. => exact ⟨_, _, fun _ => rfl⟩
  | .expr e =>
    obtain ⟨cs, ps, hpieces⟩ := e.pieces_eq_cons h.2 width 0
    exact ⟨cs, ps, fun g => hpieces _⟩

/-- No statement starts with a token that ends or goes on. -/
theorem firstKind_cases {ok : Number → Prop} {s : Statement} (h : s.WellFormed ok) :
    s.firstKind = .var ∨ s.firstKind.startsExpr = true := by
  match s with
  | .declare .. => exact .inl rfl
  | .expr e => exact .inr (Expr.startsExpr_firstKind h.2)

/-- The value of a declaration comes back, unless it nests too deep. -/
theorem reads_binding {w : Nat} {e : Expr} (h : e.WellFormed Number.HasLiteral) {c c' : Cursor}
    (hc : Shows c ((Binding.value e).pieces w) c') (hop : BinaryOp.ofKind? c'.current.kind = none)
    (hend : e.endsBefore c'.current.kind = true) :
    Outcome e.need maxNesting (fun bd => ∃ e', bd = .value e' ∧ e'.shape = e.reread)
      (fun bd => .ok bd c') (binding Expr.reader c) := by
  obtain ⟨hk, -, -, -, hc⟩ := Shows.cons_inv hc
  simp only [binding, Reader.liftM_self]
  rw [Reader.peek_bind, if_pos hk, Reader.take_bind]
  have hrun := ((e.reads h).operation w 0).closed e.fitsMin_one hc hend hop (b := maxNesting)
  exact hrun.map fun e' he' => ⟨e', rfl, he'.1⟩

/-- The type of a template variable comes back. -/
theorem reads_template {w : Nat} {type : VarType} {c c' : Cursor}
    (hc : Shows c ((Binding.template type).pieces w) c') :
    binding Expr.reader c = .ok (.template type) c' := by
  obtain ⟨hk, htext, -, rfl⟩ := Shows.single_inv hc
  rw [String.ofList_toList] at htext
  have hne : c.current.kind ≠ .assign := by
    rw [hk]
    cases type <;> decide
  have htype : typeName? c.current = some type := by
    unfold typeName?
    rw [hk, htext]
    cases type <;> rfl
  exact binding_of_typeName? hne htype

/-- What is written for a statement is read as the statement again. -/
theorem reads {s : Statement} (h : s.WellFormed Number.HasLiteral) {w : Nat} {g : List Trivia}
    (hg : g.flatMap Trivia.lines = []) {c c' : Cursor} (hc : Shows c (s.pieces w g) c')
    (hend : s.endsBefore c'.current.kind = true) :
    Outcome s.need maxNesting s.ComesBack (fun s' => .ok s' c') (reader c) := by
  have hgap : Trivia.commentOf (g ++ Comment.gap w 0 s.origin.comment) =
      Comment.reread s.origin.comment := by
    simpa using @Comment.commentOf_gap g [] hg rfl w 0 s.origin.comment
  simp only [reader, readerOver, declaration, Reader.liftM_self]
  rw [Reader.peek_bind]
  cases s with
  | expr e =>
    rw [endsBefore, Bool.and_eq_true, Option.isNone_iff_eq_none] at hend
    -- what an expression starts with is not taken for a declaration
    have hvar : c.current.kind ≠ .var := by
      obtain ⟨cs, ps, hpieces⟩ := e.pieces_eq_cons h.2 w 0
      have hstarts := Expr.startsExpr_firstKind h.2
      have hc : Shows c (e.pieces w 0 (g ++ Comment.gap w 0 e.origin.comment)) c' := hc
      rw [hpieces] at hc
      rw [(Shows.cons_inv hc).1]
      intro (h : e.firstKind = .var)
      rw [h] at hstarts
      cases hstarts
    have hrun := ((e.reads h.2).operation w 0).closed e.fitsMin_one hc hend.2 hend.1
      (b := maxNesting)
    rw [if_neg hvar]
    refine hrun.map fun e' he' => ⟨?_, ?_⟩
    · exact he'.2.comment_eq.trans hgap
    · exact congrArg expr he'.1
  | declare o name bd =>
    obtain ⟨hk, -, hcomment, -, hc⟩ := Shows.cons_inv (p := ⟨_, .var, "var".toList⟩) hc
    obtain ⟨hname, htext, -, -, hc⟩ := Shows.cons_inv hc
    rw [String.ofList_toList] at htext
    rw [if_pos hk, Reader.take_bind, Reader.expect_bind hname, htext]
    have horigin : (Origin.ofToken c.current).comment = Comment.reread o.comment :=
      hcomment.trans hgap
    cases bd with
    | value e =>
      rw [endsBefore, Bool.and_eq_true, Option.isNone_iff_eq_none] at hend
      refine (reads_binding h.2.2 hc hend.1 hend.2).map
        (f := fun bd => declare (.ofToken c.current)
          ⟨name.name, ⟨c.advance.current.position, none⟩⟩ bd) ?_
      rintro bd ⟨e', rfl, he'⟩
      exact ⟨horigin, by rw [mapExpr, mapExpr, he']⟩
    | template type =>
      rw [Reader.bind_ok (reads_template hc)]
      exact .fits (Nat.zero_le _) (a := declare (.ofToken c.current)
        ⟨name.name, ⟨c.advance.current.position, none⟩⟩ (.template type)) ⟨horigin, rfl⟩

/-- What is written for statements that keep apart is read as these statements again. -/
theorem reads_many {ss : List Statement} (h : ∀ s ∈ ss, s.WellFormed Number.HasLiteral)
    (hapart : Program.apart ss = true) {w rounds : Nat} (hrounds : ss.length ≤ rounds)
    {g : List Trivia} (hg : g.flatMap Trivia.lines = []) {c c' : Cursor}
    (hc : Shows c (Program.statementPieces w g ss) c') (heof : c'.current.kind = .eof) :
    Outcome (Program.need ss) maxNesting (List.Forall₂ ComesBack ss) (fun ss' => .ok ss' c')
      (many Expr.reader rounds c) := by
  induction ss generalizing g c rounds with
  | nil =>
    obtain rfl := hc.nil_inv
    cases rounds with
    | zero => exact .fits (Nat.zero_le _) (a := []) .nil
    | succ rounds =>
      simp only [many, Reader.liftM_self]
      rw [Reader.peek_bind, if_pos heof]
      exact .fits (Nat.zero_le _) (a := []) .nil
  | cons s ss ih =>
    obtain ⟨rounds, rfl⟩ : ∃ n, rounds = n + 1 := ⟨rounds - 1, by simp at hrounds; omega⟩
    have hs := h s (by simp)
    have hne : c.current.kind ≠ .eof := by
      obtain ⟨cs, ps, hpieces⟩ := s.pieces_eq_cons hs w
      rw [Program.statementPieces, hpieces] at hc
      obtain ⟨hk, -, -, hne, -⟩ := Shows.cons_inv hc
      rwa [hk]
    obtain ⟨c₁, hc₁, hc⟩ := Shows.append_inv hc
    -- no statement goes on with what comes next: the end, or the next one, which is kept apart
    have hend : s.endsBefore c₁.current.kind = true := by
      cases ss with
      | nil =>
        obtain rfl := hc.nil_inv
        rw [heof]
        exact s.endsBefore_eof
      | cons s' ss =>
        obtain ⟨cs, ps, hpieces⟩ := s'.pieces_eq_cons (h s' (by simp)) w
        rw [Program.statementPieces, hpieces] at hc
        rw [(Shows.cons_inv hc).1]
        rw [Program.apart, Bool.and_eq_true] at hapart
        exact hapart.1
    have hrest : Program.apart ss = true := by
      cases ss with
      | nil => rfl
      | cons s' ss =>
        rw [Program.apart, Bool.and_eq_true] at hapart
        exact hapart.2
    simp only [many, Reader.liftM_self]
    rw [Reader.peek_bind, if_neg hne, Program.need]
    refine (reads hs hg hc₁ hend).bind fun s' hs' => ?_
    have hmany := ih (fun x hx => h x (by simp [hx])) hrest (by simpa using hrounds) rfl hc
    exact hmany.map fun ss' hss' => .cons hs' hss'

end Statement

/-! ## Programs -/

namespace Program

/-- Every statement has a piece at least. -/
theorem length_le_statementPieces {ok : Number → Prop} {ss : List Statement}
    (h : ∀ s ∈ ss, s.WellFormed ok) (w : Nat) (g : List Trivia) :
    ss.length ≤ (statementPieces w g ss).length := by
  induction ss generalizing g with
  | nil => simp
  | cons s ss ih =>
    have ih := ih (fun x hx => h x (by simp [hx])) [Trivia.newline, Trivia.newline]
    obtain ⟨cs, ps, hpieces⟩ := s.pieces_eq_cons (h s (by simp)) w
    rw [statementPieces, hpieces, List.length_append, List.length_cons, List.length_cons]
    omega

/-- The pieces of a program without its `dbrp` lines start with no other such line. -/
theorem head_statementPieces {ok : Number → Prop} {ss : List Statement}
    (h : ∀ s ∈ ss, s.WellFormed ok) (width : Nat) (g : List Trivia) :
    ∀ x ∈ (statementPieces width g ss).head?, x.kind ≠ .dbrp := by
  cases ss with
  | nil => simp [statementPieces]
  | cons s ss =>
    have hs := h s (by simp)
    obtain ⟨cs, ps, hpieces⟩ := s.pieces_eq_cons hs width
    rw [statementPieces, hpieces]
    intro x hx hdbrp
    cases hx
    have hdbrp : s.firstKind = .dbrp := hdbrp
    rcases s.firstKind_cases hs with h | h <;> rw [hdbrp] at h <;> cases h

/-- What is written for statements does not start a `dbrp` line. -/
theorem current_ne_dbrp {ok : Number → Prop} {ss : List Statement} (h : ∀ s ∈ ss, s.WellFormed ok)
    {w : Nat} {g : List Trivia} {c c' : Cursor} (hc : Shows c (statementPieces w g ss) c')
    (heof : c'.current.kind = .eof) : c.current.kind ≠ .dbrp := by
  have hhead := head_statementPieces h w g
  cases hps : statementPieces w g ss with
  | nil =>
    rw [hps] at hc
    obtain rfl := hc.nil_inv
    rw [heof]
    decide
  | cons p ps =>
    rw [hps] at hc hhead
    rw [(Shows.cons_inv hc).1]
    exact hhead p rfl

/-- The `dbrp` lines of a written program are read first, and then its statements. -/
theorem reader_eq {ok : Number → Prop} {p : Program} (h : ∀ s ∈ p.statements, s.WellFormed ok)
    {w : Nat} {c c' : Cursor} (hc : Shows c (p.pieces w) c') (heof : c'.current.kind = .eof) :
    ∃ ds c₁, List.Forall₂ DbrpLine.ComesBack p.dbrps ds ∧
      Shows c₁ (statementPieces w p.statementsGap p.statements) c' ∧
      reader c = (do
        let statements ← Statement.many Expr.reader c₁.size
        return ⟨ds, statements, ← trailing⟩ : Reader Program) c₁ := by
  obtain ⟨c₁, hc₁, hc⟩ := Shows.append_inv hc
  obtain ⟨ds, hderives, hds⟩ := DbrpLine.derives_dbrpPieces rfl hc₁ (current_ne_dbrp h hc heof)
  refine ⟨ds, c₁, hds, hc, ?_⟩
  simp only [reader, readerOver, Reader.liftM_self]
  rw [Reader.rounds_bind, Reader.bind_ok (hderives.runs c.left_le_size), Reader.rounds_bind]

/-- What is written for a program whose statements keep apart is read as the program again. -/
theorem reads {p : Program} (h : p.WellFormed Number.HasLiteral)
    (hapart : apart p.statements = true) {w : Nat} {c c' : Cursor} (hc : Shows c (p.pieces w) c')
    (heof : c'.current.kind = .eof) :
    Outcome (need p.statements) maxNesting
      (fun q => p.ComesBack q ∧ q.trailingComment = c'.current.comment)
      (fun q => .ok q { c' with current := { c'.current with comment := none } }) (reader c) := by
  obtain ⟨ds, c₁, hds, hc₁, hrun⟩ := reader_eq h.statements hc heof
  have hrounds := (length_le_statementPieces h.statements w p.statementsGap).trans
    (hc₁.length_le.trans c₁.left_le_size)
  have hmany := Statement.reads_many h.statements hapart hrounds p.lines_statementsGap hc₁ heof
  rw [hrun]
  rw [← Nat.max_zero (need p.statements)]
  refine hmany.bind fun ss hss => ?_
  exact .fits (Nat.zero_le _) (a := Program.mk ds ss c'.current.comment) ⟨⟨hds, hss⟩, rfl⟩

end Program

end Tickscript
