import Tickscript.Pattern.Limits
import Tickscript.Proofs.Misreading
import Tickscript.Proofs.ParsedTrees

/-!
# Reading back what was formatted

A program that was read and is formatted is not always read back as the same program. Parentheses
are left out around what is not binary, so statements that they kept apart can run together, and a
regex can end up where a slash divides; a number that is too large is written as a word; and a
lambda gets parentheses, which can nest too deep. `Program.Reprintable` excludes these four, and
`Program.parse_render_iff` says that nothing else goes wrong.
-/

namespace Tickscript

open Lexer (Yields)

/-! ## Programs that come back -/

section Programs

variable [Regex.Engine]

/-- What comes back for a statement that was read is the same statement. -/
theorem Statement.ComesBack.sameAs {s s' : Statement} (h : s.ComesBack s') (hs : s.Parsed) :
    s'.sameAs s = true := by
  have hmap : ∀ (f g : Expr → Expr) (x : Statement),
      (x.mapExpr f).mapExpr g = x.mapExpr (g ∘ f) := by
    intro f g x
    match x with
    | .declare _ _ (.value _) => rfl
    | .declare _ _ (.template _) => rfl
    | .expr _ => rfl
  have hshape : Expr.core ∘ Expr.shape = Expr.core := funext Expr.core_shape
  have hreread : Expr.core ∘ Expr.mapOrigins .forget .reread = Expr.core :=
    funext fun e => e.mapOrigins_mapOrigins ..
  rw [sameAs_iff]
  calc s'.mapExpr Expr.core
      = (s'.mapExpr Expr.shape).mapExpr Expr.core := by rw [hmap, hshape]
    _ = (s.mapExpr (Expr.mapOrigins .forget .reread)).mapExpr Expr.core := by
      rw [h.tree, hs.reread_eq]
    _ = s.mapExpr Expr.core := by rw [hmap, hreread]

namespace Program

/-- What comes back for a program that was read is the same program. -/
theorem ComesBack.sameAs {p q : Program} (h : p.ComesBack q) (hp : ∀ s ∈ p.statements, s.Parsed) :
    q.sameAs p = true := by
  obtain ⟨ds, ss, trailing⟩ := p
  obtain ⟨ds', ss', trailing'⟩ := q
  obtain ⟨hds, hss⟩ := h
  simp only at hds hss hp
  rw [Program.sameAs, Bool.and_eq_true, allSame_iff, allSame_iff]
  constructor
  · induction hds with
    | nil => exact .nil
    | cons hd _ ih =>
      exact .cons (by simp [DbrpLine.sameAs, hd.database, hd.retentionPolicy]) ih
  · induction hss with
    | nil => exact .nil
    | cons hs _ ih => exact .cons (hs.sameAs (hp _ (by simp))) (ih fun x hx => hp x (by simp [hx]))

/-- A program that is formatted without harm is read back, if its statements keep apart and do not
nest too deep. -/
theorem parse_render {p : Program} (h : p.WellFormed Number.HasLiteral)
    (hopen : p.regexesOpen = true) (hapart : apart p.statements = true)
    (hneed : need p.statements ≤ maxNesting) (width : Nat) :
    ∃ q, parse (p.render width) = .ok q ∧ p.ComesBack q ∧
      q.trailingComment = Trivia.commentOf (p.endGap width) := by
  obtain ⟨c, hc, heof, hcomment⟩ := p.scans h hopen width
  rcases p.reads h hapart hc heof with ⟨-, q, ⟨hback, htrailing⟩, hrun⟩ | ⟨hdeep, -⟩
  · refine ⟨q, ?_, hback, htrailing.trans hcomment⟩
    rw [parse, ofTokens, hrun]
  · omega

/-! ## What goes wrong -/

/-- If as many tokens of each kind are read back as were written, they are the tokens that were
written. -/
theorem clean_of_kinds {p q : Program} (hp : p.WellFormed Number.IsLegal) {width : Nat}
    (h : parse (p.render width) = .ok q) (hkinds : q.kinds = p.kinds) :
    p.WellFormed Number.HasLiteral ∧ p.regexesOpen = true := by
  rcases p.clean_or_misread hp h with hclean | ⟨qs, b, rs, l, hpieces, hk, -, hyields⟩
  · exact hclean
  · -- a slash was read where the program has a regex
    obtain ⟨ks, hks⟩ := kinds_of_yields h hyields
    have htraces := p.traces_pieces hp.statements width
    rw [hkinds, ← htraces, hpieces, Piece.traces_append, Piece.traces_append,
      List.append_assoc] at hks
    have hbad := List.append_cancel_left hks
    simp [Piece.traces, hk, Kind.trace?] at hbad

/-- If the statements that are read back account for the tokens of the statements that were
written, these keep apart and do not nest too deep. -/
theorem apart_of_parse {p q : Program} (hp : p.WellFormed Number.HasLiteral)
    (hopen : p.regexesOpen = true) {width : Nat} (h : parse (p.render width) = .ok q)
    (hkinds : q.statements.map Statement.kinds = p.statements.map Statement.kinds) :
    apart p.statements = true ∧ need p.statements ≤ maxNesting := by
  obtain ⟨c, hc, heof, -⟩ := p.scans hp hopen width
  obtain ⟨ds, c₁, -, hc₁, hrun⟩ := reader_eq hp.statements hc heof
  obtain ⟨_, _, -, -, -, hq⟩ := derives_program h
  rw [hrun] at hq
  obtain ⟨ss, c₂, hss, hq⟩ := Reader.bind_eq_ok.1 hq
  have hq : q = ⟨ds, ss, c₂.current.comment⟩ := (EStateM.Result.ok.inj hq).1.symm
  subst hq
  exact Statement.apart_of_many hp.statements p.lines_statementsGap c₁.left_le_size hc₁ heof hss
    hkinds

/-! ## The round trip -/

/-- What a program needs to be read back as the same program after it was formatted: each of its
numbers has a literal, each of its regexes is found where it is written, no statement goes on with
the first token of the next, and none nests too deep. -/
structure Reprintable (p : Program) : Prop where
  literals : p.WellFormed Number.HasLiteral
  regexes : p.regexesOpen = true
  apart : apart p.statements = true
  nesting : need p.statements ≤ maxNesting

/-- A program that was read and is formatted is read back as the same program exactly if it is
reprintable. The width of indentation does not matter. -/
theorem parse_render_iff {source : String} {p : Program} (h : parse source = .ok p) (width : Nat) :
    (∃ q, parse (p.render width) = .ok q ∧ q.sameAs p = true) ↔ p.Reprintable := by
  have hp := parsed h
  constructor
  · rintro ⟨q, hq, hsame⟩
    obtain ⟨hstatements, hkinds⟩ := kinds_eq_of_sameAs hsame
    obtain ⟨hliterals, hregexes⟩ := clean_of_kinds hp.wellFormed hq hkinds
    obtain ⟨hapart, hneed⟩ := apart_of_parse hliterals hregexes hq hstatements
    exact ⟨hliterals, hregexes, hapart, hneed⟩
  · rintro ⟨hliterals, hregexes, hapart, hneed⟩
    obtain ⟨q, hq, hback, -⟩ := parse_render hliterals hregexes hapart hneed width
    exact ⟨q, hq, hback.sameAs hp.statements⟩

end Program

end Programs

section Sample

attribute [local instance] Pattern.engine

open Program

/-- Without its parentheses the second number is taken off the first. Behind an operator that does
not happen. -/
theorem Program.parse_render_iff_minus :
    (∃ p, parse "1 (-2)" = .ok p ∧ ¬ p.Reprintable ∧
      ¬ ∃ q, parse (p.render 4) = .ok q ∧ q.sameAs p = true) ∧
    ∃ p, parse "1 * (-2)" = .ok p ∧ p.Reprintable ∧
      ∃ q, parse (p.render 4) = .ok q ∧ q.sameAs p = true := by
  have hbad : ∃ p, parse "1 (-2)" = .ok p ∧ apart p.statements = false := by
    have h : (match parse "1 (-2)" with
      | .ok p => !apart p.statements
      | .error _ => false) = true := by decide +kernel
    split at h
    · exact ⟨_, ‹_›, by simpa using h⟩
    · cases h
  have hgood : ∃ p, parse "1 * (-2)" = .ok p ∧
      ∃ q, parse (p.render 4) = .ok q ∧ q.sameAs p = true := by
    have h : (match parse "1 * (-2)" with
      | .ok p => match parse (p.render 4) with
        | .ok q => q.sameAs p
        | .error _ => false
      | .error _ => false) = true := by decide +kernel
    split at h
    · split at h
      · exact ⟨_, ‹_›, _, ‹_›, h⟩
      · cases h
    · cases h
  obtain ⟨p, hp, hapart⟩ := hbad
  obtain ⟨p', hp', hq⟩ := hgood
  have hno : ¬ p.Reprintable := fun h => by simpa [hapart] using h.apart
  exact ⟨⟨p, hp, hno, fun h => hno ((parse_render_iff hp 4).1 h)⟩,
    p', hp', (parse_render_iff hp' 4).1 hq, hq⟩

end Sample

end Tickscript
