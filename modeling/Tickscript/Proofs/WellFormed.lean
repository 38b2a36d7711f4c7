import Tickscript.Proofs.Pieces
import Tickscript.Proofs.Scanning

/-!
# Trees that can be written

A tree may hold values for which there is no literal: a negative number, a name with a blank in it,
a comment line with a newline. `Expr.WellFormed` excludes them, and nothing else: it says nothing
about where parentheses stand or where a regex does. What numbers are let in is a parameter, because
a literal can be too large for a finite number, and infinity has no literal of its own.
-/

namespace Tickscript

/-- A number that has a literal. -/
def Number.HasLiteral : Number → Prop
  | int n => n ≤ maxInt
  | float x => x.isNegative = false ∧ x.isFinite = true

/-- A number that some literal stands for. A literal that is too large stands for infinity. -/
def Number.IsLegal : Number → Prop
  | int n => n ≤ maxInt
  | float x => x.isNegative = false ∧ x.isFinite = true ∨ x = .infinity

/-- A string that can stand between triple quotes. -/
def Quote.FitsTriple (v : String) : Prop :=
  ¬ triple <:+: v.toList ∧ v.toList.getLast? ≠ some '\''

section

variable [Regex.Engine]

/-- The pattern of a regex literal in a source. -/
def Regex.IsPattern (pattern : String) : Prop :=
  ∃ body, IsLiteral body ∧ read (String.ofList ('/' :: body ++ ['/'])) = .ok pattern

/-- A comment whose lines are lines. -/
def Comment.HasLines (comment : Option Comment) : Prop :=
  ∀ line ∈ comment.getD [], '\n' ∉ line.toList

/-- The source of a chain: a name, or one of the two keywords, which needs no calls behind it. -/
def Ident.IsSource (s : Ident) (calls : List Call) : Prop :=
  Lexer.Spells .identifier s.name.toList ∧ calls ≠ [] ∨ s.name = "stream" ∨ s.name = "batch"

mutual

/-- Every part of an expression can be written, the numbers in it if they are `ok`. -/
def Expr.WellFormed (ok : Number → Prop) : Expr → Prop
  | .number _ v => ok v
  | .string _ v verbatim => verbatim = true → Quote.FitsTriple v
  | .duration _ micros => micros < Duration.limit
  | .regex _ pattern => Regex.IsPattern pattern
  | .bool .. => True
  | .star .. => True
  | .list _ es => Expr.WellFormedList ok es
  | .identifier _ name => Lexer.Spells .identifier name.toList
  | .reference .. => True
  | .lambda _ body => body.WellFormed ok
  | .unary _ _ e => e.WellFormed ok
  | .binary _ _ l r _ => l.WellFormed ok ∧ r.WellFormed ok
  | .function c => c.kind = .global ∧ c.WellFormed ok
  | .chain _ s cs => s.IsSource cs ∧ Call.WellFormedList ok cs

/-- Every part of a call can be written. -/
def Call.WellFormed (ok : Number → Prop) : Call → Prop
  | .mk _ _ name args => Lexer.Spells .identifier name.toList ∧ Expr.WellFormedList ok args

/-- Every part of some expressions can be written. -/
def Expr.WellFormedList (ok : Number → Prop) : List Expr → Prop
  | [] => True
  | e :: es => e.WellFormed ok ∧ Expr.WellFormedList ok es

/-- Every part of the calls of a chain can be written, their comments too. -/
def Call.WellFormedList (ok : Number → Prop) : List Call → Prop
  | [] => True
  | c :: cs => c.kind ≠ .global ∧ Comment.HasLines c.origin.comment ∧ c.WellFormed ok ∧
      Call.WellFormedList ok cs

end

attribute [simp] Expr.WellFormed Call.WellFormed Expr.WellFormedList Call.WellFormedList

/-- Every part of a statement can be written. -/
def Statement.WellFormed (ok : Number → Prop) (s : Statement) : Prop :=
  Comment.HasLines s.origin.comment ∧
    match s with
    | declare _ name (.value e) => Lexer.Spells .identifier name.name.toList ∧ e.WellFormed ok
    | declare _ name (.template _) => Lexer.Spells .identifier name.name.toList
    | expr e => e.WellFormed ok

end

/-- Every part of a program can be written. -/
structure Program.WellFormed [Regex.Engine] (ok : Number → Prop) (p : Program) : Prop where
  dbrps : ∀ d ∈ p.dbrps, Comment.HasLines d.origin.comment
  statements : ∀ s ∈ p.statements, s.WellFormed ok
  trailing : Comment.HasLines p.trailingComment

/-- A number that has a literal is legal. -/
theorem Number.HasLiteral.isLegal {v : Number} (h : v.HasLiteral) : v.IsLegal := by
  cases v with
  | int n => exact h
  | float x => exact .inl h

/-- What stands for the numbers that have no literal. -/
theorem Number.render_of_isLegal {v : Number} (h : v.IsLegal) (hno : ¬ v.HasLiteral) :
    v.render = "inf.0" := by
  cases v with
  | int n => exact absurd h hno
  | float x =>
    rcases h with h | rfl
    · exact absurd h hno
    · decide +kernel

/-! ## Texts that spell tokens -/

open Lexer (Spells isNumberPart)

/-- What is made of characters of a magnitude has no unit. -/
theorem Duration.split?_of_dropWhile {cs : List Char} (h : cs.dropWhile isMagnitude = []) :
    split? cs = none := by
  have hno : units.find? (fun u => u.name == []) = none := by decide
  simp only [split?, h, hno]
  split <;> rfl

theorem Lexer.isNumberPart_of_mem_name {u : Duration.TimeUnit} (hu : u ∈ Duration.units) :
    ∀ c ∈ u.name, isNumberPart c = true := by
  have htable : ∀ u ∈ Duration.units, u.name.all isNumberPart = true := by decide
  exact List.all_eq_true.1 (htable u hu)

/-- A number that has a literal is written as one. -/
theorem Number.HasLiteral.spells {v : Number} (h : v.HasLiteral) :
    Spells .number v.render.toList := by
  -- both forms are a digit, then digits and at most a point
  have hnumber : ∀ {cs : List Char}, cs ≠ [] → (∀ c ∈ cs.head?, c.isDigit = true) →
      (∀ c ∈ cs, Duration.isMagnitude c = true) → Spells .number cs := by
    intro cs hne hhead hcs
    obtain ⟨c, ds, rfl⟩ := List.exists_cons_of_ne_nil hne
    refine .number (hhead c rfl) (fun x hx => ?_) (Duration.split?_of_dropWhile ?_)
    · have := hcs x (List.mem_cons_of_mem c hx)
      simp only [Duration.isMagnitude, Bool.or_eq_true, beq_iff_eq] at this
      rcases this with h | rfl
      · exact Lexer.isNumberPart_of_isDigit h
      · rfl
    · simpa using @List.dropWhile_append_of_pos _ _ _ [] hcs
  cases v with
  | int n =>
    have htext : (Number.render (.int n)).toList = Nat.toDigits 10 n := by simp [Number.render]
    rw [htext]
    have hdigits := Text.isDigit_toDigits (n := n)
    exact hnumber Nat.toDigits_ne_nil (fun c hc => hdigits c (List.mem_of_mem_head? hc))
      fun c hc => Duration.isMagnitude_of_isDigit (hdigits c hc)
  | float x =>
    obtain ⟨whole, fraction, hpoint⟩ := (Number.read_render_float h.1 h.2).1
    obtain ⟨c, ds, rfl⟩ := List.exists_cons_of_ne_nil hpoint.whole_ne
    rw [hpoint.text_eq]
    refine hnumber (by simp) (fun x hx => ?_) fun x hx => ?_
    · cases hx
      exact hpoint.whole_digits c (by simp)
    · rcases List.mem_append.1 hx with h | h
      · exact Duration.isMagnitude_of_isDigit (hpoint.whole_digits x h)
      · rcases List.mem_cons.1 h with rfl | h
        · rfl
        · exact Duration.isMagnitude_of_isDigit (hpoint.fraction_digits x h)

/-- A number that has a literal is read again. -/
theorem Number.HasLiteral.read {v : Number} (h : v.HasLiteral) : Number.read v.render = .ok v := by
  cases v with
  | int n => exact Number.read_render_int h
  | float x => exact (Number.read_render_float h.1 h.2).2

/-- Durations are written as durations. -/
theorem Duration.spells_render (micros : Nat) : Spells .duration (render micros).toList := by
  obtain ⟨u, hu, n, htext, -⟩ := render_eq micros
  have hdigits := Text.isDigit_toDigits (n := n)
  have hsplit := split?_digits hu hdigits Nat.toDigits_ne_nil
  rw [htext]
  obtain ⟨c, ds, hcs⟩ := List.exists_cons_of_ne_nil (Nat.toDigits_ne_nil (n := n) (b := 10))
  rw [hcs] at hdigits hsplit ⊢
  refine .duration (hdigits c (by simp)) (fun x hx => ?_) (Option.isSome_iff_exists.2 ⟨_, hsplit⟩)
  rcases List.mem_append.1 hx with h | h
  · exact Lexer.isNumberPart_of_isDigit (hdigits x (by simp [h]))
  · exact Lexer.isNumberPart_of_mem_name hu x h

/-- Every text is written as a string in single quotes. -/
theorem Quote.spells_string (v : String) : Spells .string (string v).toList := by
  simpa [string, enclose] using Spells.string (closes_escape (by decide) v.toList)

/-- Every text is written as a reference in double quotes. -/
theorem Quote.spells_reference (v : String) : Spells .reference (reference v).toList := by
  simpa [reference, enclose] using Spells.reference (closes_escape (by decide) v.toList)

/-- A text without the closing quotes is written as a verbatim string. -/
theorem Quote.spells_verbatim {v : String} (h : FitsTriple v) :
    Spells .string (verbatim v).toList := by
  simpa [verbatim] using Spells.verbatim ((Lexer.closesTriple_iff v.toList).2 h)

/-- The literal of a pattern is closed and is read as the pattern. -/
theorem Regex.IsPattern.literal_eq [Regex.Engine] {pattern : String} (h : IsPattern pattern) :
    ∃ body, IsLiteral body ∧ (literal pattern).toList = '/' :: body ++ ['/'] ∧
      read (literal pattern) = .ok pattern := by
  obtain ⟨body, hbody, hread⟩ := h
  have htext := literal_of_read hbody hread
  refine ⟨body, hbody, htext, ?_⟩
  rw [← htext, String.ofList_toList] at hread
  exact hread

/-- The literal of a pattern is written as a regex. -/
theorem Regex.IsPattern.spells [Regex.Engine] {pattern : String} (h : IsPattern pattern) :
    Spells .regex (literal pattern).toList := by
  obtain ⟨body, hbody, htext, -⟩ := h.literal_eq
  rw [htext]
  exact .regex hbody

/-- A keyword spells itself. -/
theorem Lexer.spells_keyword {w : String} {k : Kind}
    (h : (w, k) ∈ [("var", .var), ("dbrp", .dbrp), ("stream", .stream), ("batch", .batch),
      ("lambda", .lambda), ("TRUE", .boolean), ("FALSE", .boolean), ("AND", .and), ("OR", .or)]) :
    Spells k w.toList := by
  simp only [List.mem_cons, Prod.mk.injEq, List.not_mem_nil, or_false] at h
  rcases h with ⟨rfl, rfl⟩ | ⟨rfl, rfl⟩ | ⟨rfl, rfl⟩ | ⟨rfl, rfl⟩ | ⟨rfl, rfl⟩ | ⟨rfl, rfl⟩ |
    ⟨rfl, rfl⟩ | ⟨rfl, rfl⟩ | ⟨rfl, rfl⟩
  all_goals
    exact .word (by decide +kernel) (List.all_eq_true.1 (by decide +kernel)) rfl (by decide)

/-- Binary operators are written as their symbols. -/
theorem BinaryOp.spells_symbol (op : BinaryOp) : Spells op.kind op.symbol.toList := by
  cases op
  case and | or => exact Lexer.spells_keyword (by decide)
  all_goals exact .symbol (by decide)

/-- Unary operators are written as their symbols. -/
theorem UnaryOp.spells_symbol (op : UnaryOp) : Spells op.kind op.symbol.toList := by
  cases op <;> exact .symbol (by decide)

/-- Types are written as their names. -/
theorem VarType.spells_name (type : VarType) :
    Spells (Lexer.wordKind type.name) type.name.toList := by
  cases type <;>
    exact .word (by decide +kernel) (List.all_eq_true.1 (by decide +kernel)) rfl (by decide)

end Tickscript
