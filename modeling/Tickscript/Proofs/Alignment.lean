import Tickscript.Proofs.Traces

/-!
# Where statements were cut

Statements stand next to each other without separators, so what a text is read as depends on where
the reader cuts it. If the pieces of some statements are read as statements that account for the
same tokens, one by one, then the cuts are where they were written
(`Statement.apart_of_many`): a cut could only move over parentheses, and neither does a statement
end with an opening one nor does the next start with a closing one.
-/

namespace Tickscript

open Cursor (Took Shows)

/-! ## How runs begin -/

/-- Some kinds of tokens start with opening parentheses, or none, and then something else. -/
def Opens (ks : List Kind) : Prop :=
  ∃ n k rest, ks = List.replicate n .lParen ++ k :: rest ∧ k ≠ .lParen ∧ k ≠ .rParen

namespace Opens

theorem cons {k : Kind} (hl : k ≠ .lParen) (hr : k ≠ .rParen) (ks : List Kind) : Opens (k :: ks) :=
  ⟨0, k, ks, rfl, hl, hr⟩

/-- One more opening parenthesis may stand in front. -/
theorem paren {ks : List Kind} (h : Opens ks) : Opens (.lParen :: ks) := by
  obtain ⟨n, k, rest, rfl, hl, hr⟩ := h
  exact ⟨n + 1, k, rest, rfl, hl, hr⟩

theorem append {ks : List Kind} (h : Opens ks) (ks' : List Kind) : Opens (ks ++ ks') := by
  obtain ⟨n, k, rest, rfl, hl, hr⟩ := h
  exact ⟨n, k, rest ++ ks', by simp, hl, hr⟩

end Opens

/-- A run for an expression starts with opening parentheses, or none, and then something else. -/
theorem Derives.opens [Regex.Engine] {g : Goal} {c c' : Cursor} (h : Derives g c c')
    (hg : (∃ b e, g = .operand b e) ∨ ∃ b e, g = .expression b e) :
    ∃ ts, Took c ts c' ∧ Opens (ts.map Token.kind) := by
  have hfirst : ∀ {k : Kind} {c₁ c₂ : Cursor} {ts : List Token}, c₁.current.kind = k →
      k ≠ .lParen → k ≠ .rParen → k ≠ .eof → Took c₁.advance ts c₂ →
      ∃ ts, Took c₁ ts c₂ ∧ Opens (ts.map Token.kind) := by
    intro k c₁ c₂ ts hk hl hr hne ht
    subst hk
    exact ⟨_, .cons hne ht, .cons hl hr _⟩
  induction h with
  | @unary c c' b op e hop he _ =>
    obtain ⟨ts, ht, -⟩ := he.account
    have hk := UnaryOp.ofKind?_eq_some.1 hop
    refine hfirst hk ?_ ?_ ?_ ht <;> cases op <;> simp [UnaryOp.kind]
  | number hk | duration hk | string hk | reference hk | regex hk | boolean hk | star hk
  | name hk => exact hfirst hk (by simp) (by simp) (by simp) (.nil _)
  | list hk hes =>
    obtain ⟨ts, ht, -⟩ := hes.account
    exact hfirst hk (by simp) (by simp) (by simp) ht
  | lambda hk hc he =>
    obtain ⟨ts, ht, -⟩ := he.account
    exact hfirst hk (by simp) (by simp) (by simp) (.cons (by simp [hc]) ht)
  | @paren c c' b e hk he hc ih =>
    obtain ⟨ts, ht, hopens⟩ := ih (.inr ⟨b, e, rfl⟩)
    refine ⟨c.current :: (ts ++ [c'.current]),
      .cons (by simp [hk]) (ht.append (.single (by simp [hc]))),
      ?_⟩
    rw [List.map_cons, List.map_append, hk]
    exact (hopens.append _).paren
  | function hk hp hes =>
    obtain ⟨ts, ht, -⟩ := hes.account
    exact hfirst hk (by simp) (by simp) (by simp) (.cons (by simp [hp]) ht)
  | chain hk hcs =>
    obtain ⟨ts, ht, -⟩ := hcs.account
    rcases hk with ⟨hk, -⟩ | hk | hk
    all_goals exact hfirst hk (by simp) (by simp) (by simp) ht
  | @expression c c₁ c' b l e hl he ih _ =>
    obtain ⟨ts, ht, hopens⟩ := ih (.inl ⟨b, l, rfl⟩)
    obtain ⟨us, hu, -⟩ := he.account
    refine ⟨ts ++ us, ht.append hu, ?_⟩
    rw [List.map_append]
    exact hopens.append _
  | _ => simp at hg

/-! ## How runs end -/

/-- The last of some tokens before `c` opens no parenthesis, and is no name with one behind it. -/
def Ends (ts : List Token) (c : Cursor) : Prop :=
  ∀ t ∈ ts.getLast?, t.kind ≠ .lParen ∧ (t.kind = .identifier → c.current.kind ≠ .lParen)

namespace Ends

variable {c c' : Cursor} {t : Token} {ts us : List Token}

theorem single (hl : t.kind ≠ .lParen) (hi : t.kind ≠ .identifier) : Ends [t] c := by
  intro u hu
  cases hu
  exact ⟨hl, fun h => absurd h hi⟩

theorem cons (h : Ends ts c) (hne : ts ≠ []) : Ends (t :: ts) c := by
  intro u hu
  rw [List.getLast?_cons_of_ne_nil hne] at hu
  exact h u hu

/-- Of two parts the second has the last token, unless it has none at all. -/
theorem append (h : Ends ts c) (ht : Took c us c') (h' : Ends us c') : Ends (ts ++ us) c' := by
  cases us with
  | nil =>
    cases ht
    rwa [List.append_nil]
  | cons u us =>
    intro v hv
    rw [List.getLast?_append_of_ne_nil _ (by simp)] at hv
    exact h' v hv

end Ends

/-- Whether a run for a goal takes any token. -/
def Goal.Takes : Goal → Prop
  | climb .. => False
  | calls _ cs => cs ≠ []
  | _ => True

section

variable [Regex.Engine]

/-- A run ends with no opening parenthesis, and with no name that has one behind it. -/
theorem Derives.ends {g : Goal} {c c' : Cursor} (h : Derives g c c') :
    ∃ ts, Took c ts c' ∧ Ends ts c' ∧ (g.Takes → ts ≠ []) := by
  have hone : ∀ {c : Cursor} {k : Kind}, c.current.kind = k → k ≠ .lParen → k ≠ .identifier →
      k ≠ .eof → ∃ ts, Took c ts c.advance ∧ Ends ts c.advance ∧ ts ≠ [] := by
    intro c k hk hl hi hne
    subst hk
    exact ⟨_, .single hne, .single hl hi, by simp⟩
  induction h with
  | @unary c c' b op e hop _ ih =>
    obtain ⟨ts, ht, hends, hne⟩ := ih
    have hk := UnaryOp.ofKind?_eq_some.1 hop
    refine ⟨_, .cons ?_ ht, hends.cons (hne trivial), by simp⟩
    rw [hk]
    cases op <;> simp [UnaryOp.kind]
  | number hk | duration hk | string hk | reference hk | regex hk | boolean hk | star hk =>
    obtain ⟨ts, ht, hends, hne⟩ := hone hk (by simp) (by simp) (by simp)
    exact ⟨ts, ht, hends, fun _ => hne⟩
  | list hk _ ih =>
    obtain ⟨ts, ht, hends, hne⟩ := ih
    exact ⟨_, .cons (by simp [hk]) ht, hends.cons (hne trivial), by simp⟩
  | lambda hk hc _ ih =>
    obtain ⟨ts, ht, hends, hne⟩ := ih
    exact ⟨_, .cons (by simp [hk]) (.cons (by simp [hc]) ht),
      (hends.cons (hne trivial)).cons (by simp), by simp⟩
  | @paren c c' b e hk _ hc ih =>
    -- the closing parenthesis comes last, whatever the run inside ends with
    obtain ⟨ts, ht, -, -⟩ := ih
    have hclose : Took c' [c'.current] c'.advance := .single (by simp [hc])
    refine ⟨_, .cons (by simp [hk]) (ht.append hclose), Ends.cons ?_ (by simp), by simp⟩
    intro t ht
    rw [List.getLast?_concat] at ht
    cases ht
    simp [hc]
  | function hk hp _ ih =>
    obtain ⟨ts, ht, hends, hne⟩ := ih
    exact ⟨_, .cons (by simp [hk]) (.cons (by simp [hp]) ht),
      (hends.cons (hne trivial)).cons (by simp), by simp⟩
  | @name c b hk hp hm =>
    -- the one case with a name at the end: the reader has looked at what follows
    refine ⟨_, .single (by simp [hk]), fun t ht => ?_, by simp⟩
    cases ht
    exact ⟨by simp [hk], fun _ => hp⟩
  | @chain c c' b cs hk _ ih =>
    obtain ⟨ts, ht, hends, hne⟩ := ih
    have hkind : c.current.kind ≠ .eof ∧ c.current.kind ≠ .lParen := by
      rcases hk with ⟨hk, -⟩ | hk | hk <;> simp [hk]
    refine ⟨_, .cons hkind.1 ht, ?_, by simp⟩
    cases ts with
    | nil =>
      -- only a keyword can be a chain without calls, and that is no name
      cases ht
      refine .single hkind.2 fun hident => ?_
      rcases hk with ⟨-, -, hcs⟩ | hk | hk
      · exact hne hcs rfl
      · simp [hk] at hident
      · simp [hk] at hident
    | cons t ts => exact hends.cons (by simp)
  | stop => exact ⟨[], .nil _, by simp [Ends], by simp [Goal.Takes]⟩
  | @fold c c₁ c₂ c' b min op l r₀ r e hop _ _ _ _ ih₁ ih₂ ih₃ =>
    obtain ⟨ts₁, ht₁, hends₁, hne₁⟩ := ih₁
    obtain ⟨ts₂, ht₂, hends₂, -⟩ := ih₂
    obtain ⟨ts₃, ht₃, hends₃, -⟩ := ih₃
    have hk := BinaryOp.kind_of_ofKind? hop
    have hends := (hends₁.append ht₂ hends₂).append ht₃ hends₃
    refine ⟨_, .cons ?_ ((ht₁.append ht₂).append ht₃), hends.cons ?_, by simp⟩
    · rw [hk]
      cases op <;> simp [BinaryOp.kind]
    · simp [hne₁ trivial]
  | expression _ _ ih₁ ih₂ =>
    obtain ⟨ts₁, ht₁, hends₁, hne₁⟩ := ih₁
    obtain ⟨ts₂, ht₂, hends₂, -⟩ := ih₂
    exact ⟨_, ht₁.append ht₂, hends₁.append ht₂ hends₂, fun _ => by simp [hne₁ trivial]⟩
  | noArguments hclose hk =>
    have hne : ∀ {close : Kind}, close = .rParen ∨ close = .rBracket →
        close ≠ .lParen ∧ close ≠ .identifier ∧ close ≠ .eof := by
      rintro close (rfl | rfl) <;> simp
    obtain ⟨hl, hi, he⟩ := hne hclose
    obtain ⟨ts, ht, hends, hne⟩ := hone hk hl hi he
    exact ⟨ts, ht, hends, fun _ => hne⟩
  | arguments _ _ ih => exact ih
  | @last c c' b close e hclose _ hc ih =>
    obtain ⟨ts, ht, -, -⟩ := ih
    have hk : c'.current.kind ≠ .eof ∧ c'.current.kind ≠ .lParen ∧
        c'.current.kind ≠ .identifier := by
      rw [hc]
      rcases hclose with rfl | rfl <;> simp
    refine ⟨_, ht.append (.single hk.1), fun t ht => ?_, by simp⟩
    rw [List.getLast?_concat] at ht
    cases ht
    exact ⟨hk.2.1, fun h => absurd h hk.2.2⟩
  | more _ hk _ ih₁ ih₂ =>
    obtain ⟨ts₁, ht₁, hends₁, -⟩ := ih₁
    obtain ⟨ts₂, ht₂, hends₂, hne⟩ := ih₂
    have hcomma := Took.cons (by simp [hk]) ht₂
    exact ⟨_, ht₁.append hcomma, hends₁.append hcomma (hends₂.cons (hne trivial)), by simp⟩
  | noCalls => exact ⟨[], .nil _, by simp [Ends], by simp [Goal.Takes]⟩
  | @call c c₁ c' b kind es cs hm hn hp _ _ ih₁ ih₂ =>
    obtain ⟨ts₁, ht₁, hends₁, hne₁⟩ := ih₁
    obtain ⟨ts₂, ht₂, hends₂, -⟩ := ih₂
    have hne : ts₁ ++ ts₂ ≠ [] := by simp [hne₁ trivial]
    refine ⟨_, .cons ?_ (.cons (by simp [hn]) (.cons (by simp [hp]) (ht₁.append ht₂))),
      (((hends₁.append ht₂ hends₂).cons hne).cons (by simp)).cons (by simp), by simp⟩
    intro h
    simp [h, CallKind.ofKind?] at hm

/-- A statement, too, starts with opening parentheses, or none, and then something else. -/
theorem DerivesStatement.opens {s : Statement} {c c' : Cursor} (h : DerivesStatement s c c') :
    ∃ ts, Took c ts c' ∧ Opens (ts.map Token.kind) := by
  cases h with
  | expr _ he => exact he.opens (.inr ⟨_, _, rfl⟩)
  | value hk hn ha he =>
    obtain ⟨ts, ht, -⟩ := he.account
    exact ⟨_, .cons (by simp [hk]) (.cons (by simp [hn]) (.cons (by simp [ha]) ht)),
      .cons (by simp [hk]) (by simp [hk]) _⟩
  | template hk hn htype =>
    have hne : c.advance.advance.current.kind ≠ .eof := by
      rcases (kind_of_typeName? htype).1 with h | h <;> simp [h]
    exact ⟨_, .cons (by simp [hk]) (.cons (by simp [hn]) (.single hne)),
      .cons (by simp [hk]) (by simp [hk]) _⟩

/-- So do the statements of a program, if there are any. -/
theorem DerivesStatements.opens {ss : List Statement} {c c' : Cursor}
    (h : DerivesStatements ss c c') : ∃ ts, Took c ts c' ∧ c'.current.kind = .eof ∧
      (ts = [] ∨ Opens (ts.map Token.kind)) := by
  cases h with
  | nil hk => exact ⟨[], .nil _, hk, .inl rfl⟩
  | cons _ hs hss =>
    obtain ⟨ts, ht, hopens⟩ := hs.opens
    obtain ⟨us, hu, -, heof⟩ := hss.account
    refine ⟨ts ++ us, ht.append hu, heof, .inr ?_⟩
    rw [List.map_append]
    exact hopens.append _

/-- What follows a statement neither continues its last operand nor, behind a name, opens a
parenthesis, unless the statement is a template. -/
theorem DerivesStatement.ends {s : Statement} {c c' : Cursor} (h : DerivesStatement s c c') :
    ∃ ts, Took c ts c' ∧ (∀ t ∈ ts.getLast?, t.kind ≠ .lParen) ∧
      (Ends ts c' ∧ BinaryOp.ofKind? c'.current.kind = none ∨
        c.current.kind = .var ∧ c.advance.advance.current.kind ≠ .assign) := by
  have hstop : ∀ {e : Expr} {c : Cursor}, Derives (.expression maxNesting e) c c' →
      BinaryOp.ofKind? c'.current.kind = none := by
    intro e c he
    cases he with
    | expression _ hclimb =>
      cases hop : BinaryOp.ofKind? c'.current.kind with
      | none => rfl
      | some op =>
        have hlt := hclimb.climb_stops op hop
        have hpos : 1 ≤ op.precedence := by cases op <;> simp [BinaryOp.precedence]
        omega
  cases h with
  | expr _ he =>
    obtain ⟨ts, ht, hends, -⟩ := he.ends
    exact ⟨ts, ht, fun t ht => (hends t ht).1, .inl ⟨hends, hstop he⟩⟩
  | value hk hn ha he =>
    obtain ⟨ts, ht, hends, hne⟩ := he.ends
    have hall := ((hends.cons (t := c.advance.advance.current) (hne trivial)).cons
      (t := c.advance.current) (by simp)).cons (t := c.current) (by simp)
    exact ⟨_, .cons (by simp [hk]) (.cons (by simp [hn]) (.cons (by simp [ha]) ht)),
      fun t ht => (hall t ht).1, .inl ⟨hall, hstop he⟩⟩
  | template hk hn htype =>
    have hword := (kind_of_typeName? htype).1
    refine ⟨_, .cons (by simp [hk]) (.cons (by simp [hn]) (.single ?_)), fun t ht => ?_,
      .inr ⟨hk, ?_⟩⟩
    · rcases hword with h | h <;> simp [h]
    · cases ht
      rcases hword with h | h <;> simp [h]
    · rcases hword with h | h <;> simp [h]

end

/-! ## How written statements begin and end -/

/-- What is written for an expression starts in the same way. -/
theorem Expr.opens_pieces (width level : Nat) (g : List Trivia) (e : Expr) :
    Opens ((e.pieces width level g).map Piece.kind) := by
  cases e with
  | number | string | duration | regex | bool | star | identifier | reference | list | lambda =>
    exact .cons (by simp) (by simp) _
  | unary _ op x =>
    exact .cons (by cases op <;> simp [UnaryOp.kind]) (by cases op <;> simp [UnaryOp.kind]) _
  | binary _ op l r p =>
    have henclosed : ∀ {parens : Bool} {g : List Trivia} {inside : List Trivia → List Piece},
        (∀ g, Opens ((inside g).map Piece.kind)) →
        Opens ((Piece.enclosed parens g inside).map Piece.kind) := by
      intro parens g inside h
      unfold Piece.enclosed
      split
      · rw [List.cons_append, List.map_cons, List.map_append]
        exact ((h []).append _).paren
      · exact h g
    refine henclosed fun g => ?_
    rw [List.map_append]
    exact (henclosed fun g => l.opens_pieces width level g).append _
  | function c =>
    obtain ⟨_, kind, name, args⟩ := c
    cases kind <;> exact .cons (by simp) (by simp) _
  | chain _ s cs =>
    have hk : Lexer.wordKind s.name ≠ .lParen ∧ Lexer.wordKind s.name ≠ .rParen := by
      have hcases := Lexer.wordKind_cases s.name
      generalize Lexer.wordKind s.name = k at hcases
      constructor <;> (rintro rfl; revert hcases; decide)
    exact .cons hk.1 hk.2 _

/-- And so does what is written for a statement. -/
theorem Statement.opens_pieces (width : Nat) (g : List Trivia) (s : Statement) :
    Opens ((s.pieces width g).map Piece.kind) := by
  match s with
  | .declare .. => exact .cons (by simp) (by simp) _
  | .expr e => exact e.opens_pieces width 0 _

/-- What is written for a statement never ends in an opening parenthesis. -/
theorem Statement.getLast_pieces [Regex.Engine] {ok : Number → Prop} {s : Statement}
    (h : s.WellFormed ok)
    (width : Nat) (g : List Trivia) : ∀ p ∈ (s.pieces width g).getLast?, p.kind ≠ .lParen := by
  have hexpr : ∀ {e : Expr}, e.WellFormed ok → ∀ g, ∀ p ∈ (e.pieces width 0 g).getLast?,
      p.kind ≠ .lParen := by
    intro e he g p hp hk
    have hends := (e.orderly_pieces he width 0 false g (.inl rfl)).2
    obtain ⟨ps, hps⟩ := List.getLast?_eq_some_iff.1 hp
    rw [hps, List.foldl_append] at hends
    simp [Piece.endsOperand, hk] at hends
  match s with
  | .expr e => exact hexpr h.2 _
  | .declare _ name (.value e) =>
    have hne : e.pieces width 0 Trivia.space ≠ [] := by
      obtain ⟨cs, ps, hpieces⟩ := e.pieces_eq_cons h.2.2 width 0
      simp [hpieces]
    intro p hp
    refine hexpr h.2.2 Trivia.space p ?_
    simpa [Statement.pieces, Binding.pieces, List.getLast?_cons_of_ne_nil, hne] using hp
  | .declare _ name (.template type) =>
    have hk : Lexer.wordKind type.name ≠ .lParen := by cases type <;> decide
    intro p hp
    have hp : some (Piece.mk Trivia.space (Lexer.wordKind type.name) type.name.toList) = some p :=
      hp
    cases hp
    exact hk

/-- An expression is at its end before a token that cannot continue it, if that opens no parenthesis
behind a name. -/
theorem Expr.endsBefore_of_last [Regex.Engine] {ok : Number → Prop} {e : Expr} (h : e.WellFormed ok)
    {k : Kind}
    (hop : BinaryOp.ofKind? k = none) (hcall : CallKind.ofKind? k = none) {width level : Nat}
    {g : List Trivia} (hlast : ∀ p ∈ (e.pieces width level g).getLast?,
      p.kind = .identifier → k ≠ .lParen) : e.endsBefore k = true := by
  have hne : ∀ {x : Expr}, x.WellFormed ok → ∀ g, x.pieces width level g ≠ [] := by
    intro x hx g
    obtain ⟨cs, ps, hpieces⟩ := x.pieces_eq_cons hx width level
    simp [hpieces]
  -- down the right edge of the tree, as far as no parenthesis closes it: there the last piece of
  -- the part is the last one of the whole
  match e with
  | .number .. | .string .. | .duration .. | .regex .. | .bool .. | .star .. | .list ..
  | .reference .. | .function .. => rfl
  | .identifier .. =>
    have hparen := hlast _ rfl rfl
    simp [endsBefore, hparen, hcall]
  | .chain .. => simp [endsBefore, hcall]
  | .lambda _ body =>
    have ih := @Expr.endsBefore_of_last _ ok body h k hop hcall width level
      Trivia.space fun p hp => hlast p (by
        simpa [Expr.pieces, List.getLast?_cons_of_ne_nil, hne (x := body) h] using hp)
    simp [endsBefore, hop, ih]
  | .unary _ op x =>
    rw [endsBefore, Bool.or_eq_true]
    cases hparens : x.needsParens fun _ => false with
    | true => exact .inl rfl
    | false =>
      refine .inr (@Expr.endsBefore_of_last _ ok x h k hop hcall width level []
        fun p hp => hlast p ?_)
      simpa [Expr.pieces, Piece.enclosed, hparens, List.getLast?_cons_of_ne_nil, hne (x := x) h]
        using hp
  | .binary _ op l r parenthesized =>
    rw [endsBefore, Bool.or_eq_true, Bool.and_eq_true, Bool.or_eq_true, hop]
    cases parenthesized with
    | true => exact .inl rfl
    | false =>
      refine .inr ⟨rfl, ?_⟩
      cases hparens : r.needsParens fun p => op.precedence < p with
      | true => exact .inl rfl
      | false =>
        refine .inr (@Expr.endsBefore_of_last _ ok r h.2 k hop hcall width level
          Trivia.space fun p hp => hlast p ?_)
        rw [Expr.pieces, Piece.enclosed, if_neg (by simp),
          List.getLast?_append_of_ne_nil _ (by simp)]
        simpa [Piece.enclosed, hparens, List.getLast?_cons_of_ne_nil, hne h.2] using hp

/-! ## Cuts -/

/-- Of two ways to cut a row of tokens, if one part takes only parentheses more than the other, it
takes nothing more. -/
theorem Opens.eq_nil_of_isPrefix {ks more rest : List Kind}
    (htrace : more.filterMap Kind.trace? = []) (hopens : more ++ rest = [] ∨ Opens (more ++ rest))
    (hlast : (ks ++ more).getLast? ≠ some .lParen) : more = [] := by
  by_contra hne
  obtain ⟨n, k, tail, heq, hl, hr⟩ := hopens.resolve_left (by simp [hne])
  have hall : ∀ x ∈ more, x = .lParen := by
    rcases List.append_eq_append_iff.1 heq with ⟨xs, hrep, -⟩ | ⟨xs, hmore, htail⟩
    · intro x hx
      exact List.eq_of_mem_replicate (n := n) (hrep ▸ List.mem_append_left _ hx)
    · -- the first other token would be among the parentheses
      cases xs with
      | nil =>
        intro x hx
        rw [List.append_nil] at hmore
        exact List.eq_of_mem_replicate (hmore ▸ hx)
      | cons x xs =>
        have hx : k = x := (List.cons.inj htail).1
        subst hx
        have hnone := List.filterMap_eq_nil_iff.1 htrace k (hmore ▸ by simp)
        cases k <;> simp [Kind.trace?] at hnone hl hr
  obtain ⟨init, x, rfl⟩ := (List.eq_nil_or_concat more).resolve_left hne
  rw [List.concat_eq_append] at hall
  obtain rfl := hall x (by simp)
  simp at hlast

/-- Two ways to cut a row of tokens that differ in parentheses only are one. -/
theorem Opens.cut_unique {ks rest ks' rest' : List Kind} (heq : ks ++ rest = ks' ++ rest')
    (htrace : ks.filterMap Kind.trace? = ks'.filterMap Kind.trace?)
    (hlast : ks.getLast? ≠ some .lParen) (hlast' : ks'.getLast? ≠ some .lParen)
    (hrest : rest = [] ∨ Opens rest) (hrest' : rest' = [] ∨ Opens rest') : ks = ks' := by
  rcases List.append_eq_append_iff.1 heq with ⟨more, rfl, rfl⟩ | ⟨more, rfl, rfl⟩
  · have htrace : more.filterMap Kind.trace? = [] := by simpa using htrace
    rw [eq_nil_of_isPrefix htrace hrest hlast', List.append_nil]
  · have htrace : more.filterMap Kind.trace? = [] := by simpa using htrace
    rw [eq_nil_of_isPrefix htrace hrest' hlast, List.append_nil]

/-- Pieces that lead from one cursor to another were taken as tokens of the same kinds. -/
theorem Cursor.Shows.took {c c' : Cursor} {ps : List Piece} (h : Shows c ps c') :
    ∃ ts, Took c ts c' ∧ ts.map Token.kind = ps.map Piece.kind := by
  induction h with
  | nil => exact ⟨[], .nil _, rfl⟩
  | @cons c c' p ps hword hne _ ih =>
    obtain ⟨ts, ht, hts⟩ := ih
    simp only [Token.word, Piece.word, Prod.mk.injEq] at hword
    refine ⟨c.current :: ts, .cons (hword.1 ▸ hne) ht, ?_⟩
    rw [List.map_cons, List.map_cons, hword.1, hts]

/-- The traces of tokens depend on their kinds only. -/
theorem traces_eq_filterMap (ts : List Token) :
    traces ts = (ts.map Token.kind).filterMap Kind.trace? := by
  rw [List.filterMap_map]
  rfl

/-- The traces of pieces depend on their kinds only. -/
theorem Piece.traces_eq_filterMap (ps : List Piece) :
    traces ps = (ps.map Piece.kind).filterMap Kind.trace? := by
  rw [List.filterMap_map]
  rfl

theorem getLast?_map_kind_ne {α : Type} {kind : α → Kind} {xs : List α}
    (h : ∀ x ∈ xs.getLast?, kind x ≠ .lParen) : (xs.map kind).getLast? ≠ some .lParen := by
  rw [List.getLast?_map]
  cases hlast : xs.getLast? with
  | none => simp
  | some x => simpa using h x hlast

namespace Statement

variable [Regex.Engine]

/-- A statement that was read off the pieces of a statement, and a row of statements off what
follows, was cut where the pieces end. -/
theorem cut_eq {ok : Number → Prop} {s : Statement} {ss : List Statement}
    (h : ∀ x ∈ s :: ss, x.WellFormed ok) {width : Nat} {g : List Trivia} {c c₁ c₂ d c' : Cursor}
    {s' : Statement} {ss' : List Statement} (hs' : DerivesStatement s' c c₁)
    (hss' : DerivesStatements ss' c₁ c₂) (hc : Shows c (s.pieces width g) d)
    (hd : Shows d (Program.statementPieces width [Trivia.newline, Trivia.newline] ss) c')
    (heof : c'.current.kind = .eof) (hkinds : s'.kinds = s.kinds) : c₁ = d := by
  obtain ⟨ts, ht, hts⟩ := hs'.account
  obtain ⟨us, hu, heof₂, hus⟩ := hss'.opens
  obtain ⟨ts', ht', hlast, -⟩ := hs'.ends
  obtain rfl := ht.tokens_unique ht'
  obtain ⟨ps, hp, hps⟩ := hc.took
  obtain ⟨qs, hq, hqs⟩ := hd.took
  -- both ways lead to the end of input
  have hall : ts ++ us = ps ++ qs := by
    rw [((ht.append hu).eq_takeWhile heof₂).1, ((hp.append hq).eq_takeWhile heof).1]
  have hs := h s (by simp)
  have hkindsEq : ts.map Token.kind = ps.map Token.kind := by
    refine @Opens.cut_unique _ (us.map Token.kind) _ (qs.map Token.kind) ?_ ?_
      (getLast?_map_kind_ne hlast) ?_ ?_ ?_
    · rw [← List.map_append, ← List.map_append, hall]
    · rw [← traces_eq_filterMap, hts, hkinds, hps, ← Piece.traces_eq_filterMap,
        s.traces_pieces hs]
    · rw [hps]
      exact getLast?_map_kind_ne (s.getLast_pieces hs width g)
    · exact hus.imp_left fun h => by rw [h]; rfl
    · rw [hqs]
      cases ss with
      | nil => exact .inl rfl
      | cons s₂ ss =>
        refine .inr ?_
        rw [Program.statementPieces, List.map_append]
        exact (s₂.opens_pieces width _).append _
  have hlen : ts.length = ps.length := by
    simpa using congrArg List.length hkindsEq
  obtain ⟨rfl, -⟩ := List.append_inj hall hlen
  exact ht.unique hp

/-- Reading several statements starts by reading one, with one round less for the others. -/
theorem many_eq_cons {rounds : Nat} {c c₂ : Cursor} {s : Statement} {ss : List Statement}
    (h : many Expr.reader rounds c = .ok (s :: ss) c₂) :
    ∃ r c₁, rounds = r + 1 ∧ reader c = .ok s c₁ ∧ many Expr.reader r c₁ = .ok ss c₂ := by
  cases rounds with
  | zero => cases h
  | succ r =>
    simp only [many, Reader.liftM_self] at h
    rw [Reader.peek_bind] at h
    split at h
    · cases h
    · obtain ⟨s₁, c₁, hs, h⟩ := Reader.bind_eq_ok.1 h
      obtain ⟨ss₁, c₃, hss, h⟩ := Reader.bind_eq_ok.1 h
      cases h
      exact ⟨r, c₁, rfl, hs, hss⟩

/-- A statement that was cut where its pieces end is at its end there. -/
theorem endsBefore_of_derives {ok : Number → Prop} {s : Statement} (h : s.WellFormed ok)
    {width : Nat} {g : List Trivia} {c c' : Cursor} {s' : Statement}
    (hs' : DerivesStatement s' c c') (hc : Shows c (s.pieces width g) c')
    (hcall : CallKind.ofKind? c'.current.kind = none) : s.endsBefore c'.current.kind = true := by
  obtain ⟨ts, ht, -, hends⟩ := hs'.ends
  obtain ⟨ps, hp, hps⟩ := hc.took
  obtain rfl := ht.tokens_unique hp
  -- a name at the end is one in the pieces and one among the tokens
  have hlast : Ends ts c' → ∀ p ∈ (s.pieces width g).getLast?, p.kind = .identifier →
      c'.current.kind ≠ .lParen := by
    intro hends p hp hk
    have hmap : (ts.map Token.kind).getLast? = some p.kind := by
      rw [hps, List.getLast?_map, hp]
      rfl
    rw [List.getLast?_map, Option.map_eq_some_iff] at hmap
    obtain ⟨t, htlast, htk⟩ := hmap
    exact (hends t htlast).2 (htk.trans hk)
  match s with
  | .declare _ _ (.template _) => rfl
  | .expr e =>
    obtain ⟨hends, hop⟩ := hends.resolve_right fun ⟨hvar, _⟩ => by
      obtain ⟨cs, qs, hpieces⟩ := Statement.pieces_eq_cons (s := .expr e) h width
      rw [hpieces] at hc
      have hstarts := e.startsExpr_firstKind h.2
      rw [(Shows.cons_inv hc).1] at hvar
      have hvar : e.firstKind = .var := hvar
      rw [hvar] at hstarts
      cases hstarts
    rw [endsBefore, hop]
    exact e.endsBefore_of_last h.2 hop hcall (hlast hends)
  | .declare o name (.value e) =>
    obtain ⟨hends, hop⟩ := hends.resolve_right fun ⟨_, hassign⟩ => by
      obtain ⟨-, -, -, -, hc⟩ := Shows.cons_inv hc
      obtain ⟨-, -, -, -, hc⟩ := Shows.cons_inv hc
      exact hassign (Shows.cons_inv hc).1
    have hne : e.pieces width 0 Trivia.space ≠ [] := by
      obtain ⟨cs, qs, hpieces⟩ := e.pieces_eq_cons h.2.2 width 0
      simp [hpieces]
    rw [endsBefore, hop]
    refine @Expr.endsBefore_of_last _ _ e h.2.2 _ hop hcall width 0 Trivia.space
      fun p hp => hlast hends p ?_
    simpa [pieces, Binding.pieces, List.getLast?_cons_of_ne_nil, hne] using hp

/-- Statements that account for the same tokens as the statements whose pieces they were read off
show that these keep apart and do not nest too deep. -/
theorem apart_of_many {ss : List Statement} (h : ∀ s ∈ ss, s.WellFormed Number.HasLiteral)
    {width rounds : Nat} {g : List Trivia} (hg : g.flatMap Trivia.lines = []) {c c' c₂ : Cursor}
    (hrounds : c.left ≤ rounds) (hc : Shows c (Program.statementPieces width g ss) c')
    (heof : c'.current.kind = .eof) {ss' : List Statement}
    (hrun : many Expr.reader rounds c = .ok ss' c₂) (hkinds : ss'.map kinds = ss.map kinds) :
    Program.apart ss = true ∧ Program.need ss ≤ maxNesting := by
  induction ss generalizing g c rounds ss' with
  | nil => exact ⟨rfl, Nat.zero_le _⟩
  | cons s ss ih =>
    have hs := h s (by simp)
    cases ss' with
    | nil => cases hkinds
    | cons s' ss' =>
      rw [List.map_cons, List.map_cons, List.cons.injEq] at hkinds
      obtain ⟨r, c₁, rfl, hs', hss'⟩ := many_eq_cons hrun
      obtain ⟨d, hd₁, hd₂⟩ := Shows.append_inv hc
      have hder := derives_statement hs'
      have hleft : c₁.left ≤ r := by
        have := hder.left_lt
        omega
      obtain rfl := cut_eq h hder (derives_statements hleft hss') hd₁ hd₂ heof hkinds.1
      obtain ⟨hapart, hneed⟩ := ih (fun x hx => h x (by simp [hx])) rfl hleft hd₂ hss' hkinds.2
      -- what follows is the end or the first token of the next statement
      have hnext : ss = [] ∧ c₁.current.kind = .eof ∨ ∃ s₂ ss₂, ss = s₂ :: ss₂ ∧
          c₁.current.kind = s₂.firstKind := by
        cases ss with
        | nil =>
          obtain rfl := hd₂.nil_inv
          exact .inl ⟨rfl, heof⟩
        | cons s₂ ss₂ =>
          obtain ⟨cs, ps, hpieces⟩ := s₂.pieces_eq_cons (h s₂ (by simp)) width
          rw [Program.statementPieces, hpieces] at hd₂
          exact .inr ⟨s₂, ss₂, rfl, (Shows.cons_inv hd₂).1⟩
      have hcall : CallKind.ofKind? c₁.current.kind = none := by
        rcases hnext with ⟨-, hk⟩ | ⟨s₂, ss₂, rfl, hk⟩
        · rw [hk]
          rfl
        · rcases s₂.firstKind_cases (h s₂ (by simp)) with hvar | hstarts
          · rw [hk, hvar]
            rfl
          · rw [hk]
            cases hfirst : s₂.firstKind <;> rw [hfirst] at hstarts <;> first | rfl | cases hstarts
      have hends := endsBefore_of_derives hs hder hd₁ hcall
      refine ⟨?_, ?_⟩
      · rcases hnext with ⟨rfl, -⟩ | ⟨s₂, ss₂, rfl, hk⟩
        · rfl
        · rw [Program.apart, ← hk, hends, hapart]
          rfl
      · rw [Program.need, Nat.max_le]
        refine ⟨?_, hneed⟩
        rcases reads hs hg hd₁ hends with ⟨hneed, -⟩ | ⟨-, x, c₃, hr, -⟩
        · exact hneed
        · rw [hs'] at hr
          cases hr

end Statement

end Tickscript
