import Tickscript.Proofs.LayeredGrammar

/-!
# Precedence climbing reads the layered grammar

The reader of expressions climbs precedences in one loop; `Layered` has a nonterminal for each
level. Here the two are shown to do the same: wherever the climb does not run out of budget, it
gives the tree of the layered reader, or its error, and stops at the same token.

`Agree` compares two results, and `Agree.bind` puts comparisons together along two readers. A climb
from a minimal precedence corresponds to going on from an operand through all levels from the
tightest up to that precedence (`upFrom`, `goOnFrom`): if the next operator belongs to a level in
between, the levels below it find nothing to fold, its own level folds it, and after the right
operand everything starts again from the new tree (`goOnFrom_fold`).
-/

namespace Tickscript

/-! ## Comments do not matter -/

/-- The comment of an expression is not in its bare form. -/
theorem Expr.bare_withComment (c : Option Comment) (e : Expr) :
    (e.withComment c).bare = e.bare := by
  cases e with
  | function call =>
    cases call
    rfl
  | _ => rfl

/-- So taking a comment off leaves the bare form as it is. -/
theorem Expr.bare_takeLeadingComment (e : Expr) : e.takeLeadingComment.2.bare = e.bare := by
  refine apply_takeLeadingComment bare_withComment (fun o op l l' r p h => ?_) e
  rw [bare, bare, h]

/-- A fold gives the bare tree of the operator and its two bare operands. -/
theorem Expr.bare_fold (l : Expr) (t : Token) (op : BinaryOp) (r : Expr) :
    (l.fold t op r).bare = .binary (Layered.place t) op l.bare r.bare false := by
  have horigin : (Expr.foldedOrigin l.takeLeadingComment.1 t).bare = Layered.place t := by
    unfold Expr.foldedOrigin
    split <;> rfl
  simp [Expr.fold, Expr.bare, bare_takeLeadingComment, horigin]

/-- Parentheses only mark the bare tree. -/
theorem Expr.bare_inParens (c : Option Comment) (e : Expr) :
    (e.inParens c).bare = e.bare.parenthesize := by
  have hpar : ∀ x : Expr, x.parenthesize.bare = x.bare.parenthesize := by
    intro x
    cases x <;> simp [Expr.parenthesize, Expr.bare]
  rw [Expr.inParens, hpar]
  split
  · rw [bare_withComment]
  · rfl

namespace Layered

/-! ## Comparing results -/

/-- Two readers agree in a result: unless the first has run out of budget, the second gives the
same, up to `f`, at the same cursor, which has at most `n` tokens ahead. -/
def Agree {α β : Type} (f : α → β) (n : Nat) :
    EStateM.Result SyntaxError Cursor α → EStateM.Result SyntaxError Cursor β → Prop
  | .ok a c, r => c.left ≤ n ∧ r = .ok (f a) c
  | .error e c, r => e.fault = .tooDeep maxNesting ∨ r = .error e c

namespace Agree

variable {α β γ δ : Type} {f : α → β} {g : γ → δ} {n : Nat} {c : Cursor}

/-- Results that agree do so within more tokens too. -/
theorem mono {r : EStateM.Result SyntaxError Cursor α} {r' : EStateM.Result SyntaxError Cursor β}
    {n' : Nat} (h : Agree f n r r') (hle : n ≤ n') : Agree f n' r r' := by
  cases r with
  | ok a c => exact ⟨Nat.le_trans h.1 hle, h.2⟩
  | error e c => exact h

/-- The same error. -/
theorem fail (e : SyntaxError) (c : Cursor) :
    Agree f n (.error e c) (.error e c) := .inr rfl

/-- Comparisons are put together along two readers in a row. -/
theorem bind {m : Reader α} {m' : Reader β} {k : α → Reader γ} {k' : β → Reader δ}
    (hm : Agree f n (m c) (m' c))
    (hk : ∀ a c₁, m c = .ok a c₁ → c₁.left ≤ n → Agree g n (k a c₁) (k' (f a) c₁)) :
    Agree g n ((m >>= k) c) ((m' >>= k') c) := by
  cases hr : m c with
  | ok a c₁ =>
    rw [hr] at hm
    rw [Reader.bind_ok hr, Reader.bind_ok hm.2]
    exact hk a c₁ hr hm.1
  | error e c₁ =>
    rw [hr] at hm
    rw [Reader.bind_error hr]
    rcases hm with htoo | hm
    · exact .inl htoo
    · exact .inr (Reader.bind_error hm)

/-- Both readers expect the same token. -/
theorem expect {kind : Kind} {k : Token → Reader γ} {k' : Token → Reader δ}
    (hk : c.current.kind = kind → Agree g n (k c.current c.advance) (k' c.current c.advance)) :
    Agree g n ((Reader.expect kind >>= k) c) ((Reader.expect kind >>= k') c) := by
  by_cases h : c.current.kind = kind
  · rw [Reader.expect_bind h, Reader.expect_bind h]
    exact hk h
  · rw [Reader.expect_bind_error h, Reader.expect_bind_error h]
    exact .fail _ _

/-- Both readers interpret the same literal. -/
theorem literal {p : Position} {r : Except LiteralError α} {k : α → Reader γ} {k' : α → Reader δ}
    (hk : ∀ a, Agree g n (k a c) (k' a c)) :
    Agree g n ((Reader.literal p r >>= k) c) ((Reader.literal p r >>= k') c) := by
  cases r with
  | ok a => exact hk a
  | error e => exact .fail _ _

end Agree

/-! ## No reader of the grammar goes backwards -/

/-- A reader that never gains tokens. -/
def Shrinks {α : Type} (m : Reader α) : Prop := ∀ c a c', m c = .ok a c' → c'.left ≤ c.left

/-- Going on never gains tokens. -/
theorem left_advance_le (c : Cursor) : c.advance.left ≤ c.left := by
  obtain ⟨t, ts⟩ := c
  cases ts with
  | nil => exact Nat.zero_le _
  | cons u us =>
    have hle : Cursor.left ⟨u, us⟩ ≤ us.length + 1 := Cursor.left_le_size ⟨u, us⟩
    show Cursor.left ⟨u, us⟩ ≤ us.length + 2
    omega

namespace Shrinks

variable {α β : Type}

theorem pure (a : α) : Shrinks (pure a : Reader α) := by
  intro c b c' h
  cases h
  exact Nat.le_refl _

theorem fail (expected : String) : Shrinks (Reader.fail expected : Reader α) := by
  intro c b c' h
  cases h

/-- If neither of two readers gains tokens, both together do not. -/
theorem bind {m : Reader α} {k : α → Reader β} (hm : Shrinks m) (hk : ∀ a, Shrinks (k a)) :
    Shrinks (m >>= k) := by
  intro c b c' h
  obtain ⟨a, c₁, ha, hb⟩ := Reader.bind_eq_ok.1 h
  exact Nat.le_trans (hk a _ _ _ hb) (hm _ _ _ ha)

theorem peek : Shrinks Reader.peek := by
  intro c b c' h
  cases h
  exact Nat.le_refl _

theorem rounds : Shrinks Reader.rounds := by
  intro c b c' h
  cases h
  exact Nat.le_refl _

theorem take : Shrinks Reader.take := by
  intro c b c' h
  cases h
  exact left_advance_le c

theorem expect (kind : Kind) : Shrinks (Reader.expect kind) := by
  intro c b c' h
  obtain ⟨-, -, rfl⟩ := Reader.expect_eq_ok.1 h
  exact left_advance_le c

theorem literal (p : Position) (r : Except LiteralError α) : Shrinks (Reader.literal p r) := by
  intro c b c' h
  obtain ⟨-, rfl⟩ := Reader.literal_eq_ok.1 h
  exact Nat.le_refl _

theorem ite {p : Prop} [Decidable p] {m m' : Reader α} (hm : Shrinks m) (hm' : Shrinks m') :
    Shrinks (if p then m else m') := by
  split
  · exact hm
  · exact hm'

end Shrinks

section

variable {next : Reader Expr} (hnext : Shrinks next)

include hnext

/-- Folding at one level gains no tokens if its operands do not. -/
theorem shrinks_foldMany (level : Level) :
    ∀ (rounds : Nat) (left : Expr), Shrinks (foldMany level next rounds left)
  | 0, left => .pure left
  | rounds + 1, left => by
    rw [foldMany]
    refine .bind .peek fun k => ?_
    cases level.lookup k with
    | none => exact .pure left
    | some op => exact .bind .take fun t => .bind hnext fun r => shrinks_foldMany level rounds _

/-- Neither does the level as a whole. -/
theorem shrinks_binaryLevel (level : Level) : Shrinks (binaryLevel level next) :=
  .bind hnext fun l => .bind .rounds fun n => shrinks_foldMany hnext level n l

theorem shrinks_moreArguments : ∀ rounds : Nat, Shrinks (moreArguments next rounds)
  | 0 => .pure []
  | rounds + 1 => by
    rw [moreArguments]
    exact .bind .peek fun k => .ite
      (.bind .take fun _ => .bind hnext fun e => .bind (shrinks_moreArguments rounds) fun es =>
        .pure (e :: es))
      (.pure [])

/-- Nor do arguments. -/
theorem shrinks_arguments (close : Kind) : Shrinks (arguments next close) := by
  rw [arguments]
  exact .bind .peek fun k => .ite (.bind .take fun _ => .pure [])
    (.bind hnext fun e => .bind .rounds fun n => .bind (shrinks_moreArguments hnext n) fun es =>
      .bind (.expect close) fun _ => .pure (e :: es))

theorem shrinks_calls : ∀ rounds : Nat, Shrinks (calls next rounds)
  | 0 => .pure []
  | rounds + 1 => by
    rw [calls]
    refine .bind .peek fun k => ?_
    cases marks.lookup k with
    | none => exact .pure []
    | some kind =>
      exact .bind .take fun t => .bind (.expect _) fun name => .bind (.expect _) fun _ =>
        .bind (shrinks_arguments hnext _) fun args => .bind (shrinks_calls rounds) fun cs =>
          .pure _

/-- Nor does a chain. -/
theorem shrinks_chain (source : Token) (keyword : Bool) : Shrinks (chain next source keyword) := by
  rw [chain]
  refine .bind .rounds fun n => .bind (shrinks_calls hnext n) fun cs => ?_
  split <;> exact .pure _

/-- Nor does an operand. -/
theorem shrinks_primary [Regex.Engine] : Shrinks (primary next) := by
  have hliteral : ∀ {α : Type} (v : String → Except LiteralError α) (node : Origin → α → Expr),
      Shrinks (literal v node) := fun v node =>
    .bind .take fun t => .bind (.literal _ _) fun a => .pure _
  rw [primary]
  refine .bind .peek fun k => ?_
  cases k
  case number | duration | reference | regex => exact hliteral _ _
  case string => exact .bind .take fun t => .bind (.literal _ _) fun v => .pure _
  case boolean | star => exact .bind .take fun t => .pure _
  case lBracket => exact .bind .take fun t => .bind (shrinks_arguments hnext _) fun es => .pure _
  case lambda => exact .bind .take fun t => .bind (.expect _) fun _ => .bind hnext fun e => .pure _
  case lParen =>
    exact .bind .take fun _ => .bind hnext fun e => .bind (.expect _) fun _ => .pure _
  case identifier =>
    exact .bind .take fun t => .bind .peek fun k => .ite
      (.bind .take fun _ => .bind (shrinks_arguments hnext _) fun args => .pure _)
      (shrinks_chain hnext t false)
  case stream | batch => exact .bind .take fun t => shrinks_chain hnext t true
  all_goals exact .fail _

end

/-! ## Levels by precedence -/

/-- The level of the operators with a precedence. -/
def levelOf : Nat → Level
  | 1 => disjunctive
  | 2 => conjunctive
  | 3 => equational
  | 4 => relational
  | 5 => additive
  | 6 => multiplicative
  | _ => []

/-- A level has the operators of its precedence and no other. -/
theorem lookup_levelOf (p : Nat) (k : Kind) :
    (levelOf p).lookup k = (BinaryOp.ofKind? k).filter fun op => op.precedence == p := by
  match p with
  | 0 | 1 | 2 | 3 | 4 | 5 | 6 => cases k <;> rfl
  | p + 7 => cases k <;> simp [levelOf, BinaryOp.ofKind?, BinaryOp.precedence, Option.filter]

/-- There are six levels of operators. -/
theorem precedence_bounds (op : BinaryOp) : 1 ≤ op.precedence ∧ op.precedence ≤ 6 := by
  cases op <;> simp [BinaryOp.precedence]

theorem lookup_prefixes (k : Kind) : prefixes.lookup k = UnaryOp.ofKind? k := by
  cases k <;> rfl

theorem lookup_marks (k : Kind) : marks.lookup k = CallKind.ofKind? k := by
  cases k <;> rfl

/-- The `d` tightest levels over a reader of unary operands. -/
def upFrom (u : Reader Expr) : Nat → Reader Expr
  | 0 => u
  | d + 1 => binaryLevel (levelOf (6 - d)) (upFrom u d)

/-- The expressions of the grammar are the six levels over a unary operand. -/
theorem expressionOver_eq (u : Reader Expr) : expressionOver u = upFrom u 6 := rfl

/-- The `d` tightest levels, going on from an operand that has been read. -/
def goOnFrom (u : Reader Expr) : Nat → Expr → Reader Expr
  | 0, left => pure left
  | d + 1, left => do
    let l ← goOnFrom u d left
    foldMany (levelOf (6 - d)) (upFrom u d) (← Reader.rounds) l

/-- Reading levels is reading an operand and going on from it. -/
theorem upFrom_eq_bind (u : Reader Expr) (d : Nat) :
    upFrom u d = (u >>= goOnFrom u d) := by
  induction d with
  | zero => exact (bind_pure u).symm
  | succ d ih =>
    have hgo : goOnFrom u (d + 1) = fun left => goOnFrom u d left >>= fun l =>
        Reader.rounds >>= fun n => foldMany (levelOf (6 - d)) (upFrom u d) n l := rfl
    rw [hgo, ← bind_assoc, ← ih]
    rfl

/-- No row of levels gains tokens. -/
theorem shrinks_upFrom {u : Reader Expr} (hu : Shrinks u) : ∀ d, Shrinks (upFrom u d)
  | 0 => hu
  | d + 1 => shrinks_binaryLevel (shrinks_upFrom hu d) _

/-- The unary operands of the layered grammar gain no tokens. -/
theorem shrinks_unary [Regex.Engine] : ∀ fuel, Shrinks (unary fuel)
  | 0 => .fail _
  | fuel + 1 => by
    rw [unary]
    refine .bind .peek fun k => ?_
    cases prefixes.lookup k with
    | some op => exact .bind .take fun t => .bind (shrinks_unary fuel) fun e => .pure _
    | none => exact shrinks_primary (shrinks_upFrom (shrinks_unary fuel) 6)

/-- A level stops at a token that is none of its operators. -/
theorem foldMany_none {level : Level} {next : Reader Expr} {rounds : Nat} {left : Expr}
    {c : Cursor} (h : level.lookup c.current.kind = none) :
    foldMany level next rounds left c = .ok left c := by
  cases rounds with
  | zero => rfl
  | succ rounds =>
    rw [foldMany, Reader.peek_bind, h]
    rfl

/-- A level folds one of its operators and goes on from the tree. -/
theorem foldMany_some {level : Level} {next : Reader Expr} {rounds : Nat} {left : Expr}
    {c : Cursor} {op : BinaryOp} (h : level.lookup c.current.kind = some op) :
    foldMany level next (rounds + 1) left c =
      (do
        let right ← next
        foldMany level next rounds (.binary (place c.current) op left right false) :
          Reader Expr) c.advance := by
  rw [foldMany, Reader.peek_bind, h]
  rfl

/-- Rounds enough for the tokens ahead are as good as any more. -/
theorem foldMany_rounds {p : Nat} {next : Reader Expr} (hnext : Shrinks next) {m n : Nat}
    {left : Expr} {c : Cursor} (hm : c.left ≤ m) (hn : c.left ≤ n) :
    foldMany (levelOf p) next m left c = foldMany (levelOf p) next n left c := by
  induction m generalizing n left c with
  | zero =>
    have hnone : (levelOf p).lookup c.current.kind = none := by
      rw [Cursor.current_eq_eof_of_left (Nat.le_zero.1 hm), lookup_levelOf]
      rfl
    rw [foldMany_none hnone, foldMany_none hnone]
  | succ m ih =>
    cases hop : (levelOf p).lookup c.current.kind with
    | none => rw [foldMany_none hop, foldMany_none hop]
    | some op =>
      have hne : c.current.kind ≠ .eof := by
        intro h
        rw [h, lookup_levelOf] at hop
        simp [BinaryOp.ofKind?] at hop
      have hlt := Cursor.left_advance_lt hne
      obtain ⟨n, rfl⟩ : ∃ k, n = k + 1 := ⟨n - 1, by omega⟩
      rw [foldMany_some hop, foldMany_some hop]
      cases hr : next c.advance with
      | error e c₁ => rw [Reader.bind_error hr, Reader.bind_error hr]
      | ok r c₁ =>
        have hle := hnext _ _ _ hr
        rw [Reader.bind_ok hr, Reader.bind_ok hr]
        exact ih (by omega) (by omega)

/-- Levels without the next operator leave everything as it is. -/
theorem goOnFrom_stop {u : Reader Expr} {d : Nat} (hd : d ≤ 6) {left : Expr} {c : Cursor}
    (h : ∀ op, BinaryOp.ofKind? c.current.kind = some op → op.precedence < 7 - d) :
    goOnFrom u d left c = .ok left c := by
  induction d with
  | zero => rfl
  | succ d ih =>
    have hprev : goOnFrom u d left c = .ok left c :=
      ih (by omega) fun op hop => Nat.lt_of_lt_of_le (h op hop) (by omega)
    have hnone : (levelOf (6 - d)).lookup c.current.kind = none := by
      rw [lookup_levelOf, Option.filter_eq_none_iff]
      intro op hop hp
      have hlt := h op hop
      simp only [beq_iff_eq] at hp
      omega
    rw [goOnFrom, Reader.bind_ok hprev, Reader.rounds_bind, foldMany_none hnone]

/-- The next operator is folded by its own level, with a right operand from the levels below; then
all levels go on from the new tree. -/
theorem goOnFrom_fold {u : Reader Expr} (hu : Shrinks u) {d : Nat} (hd : d ≤ 6) {left right : Expr}
    {c c₂ : Cursor} {op : BinaryOp} (hop : BinaryOp.ofKind? c.current.kind = some op)
    (hmin : 7 - d ≤ op.precedence)
    (hright : upFrom u (6 - op.precedence) c.advance = .ok right c₂)
    (hstop : ∀ op', BinaryOp.ofKind? c₂.current.kind = some op' →
      op'.precedence < op.precedence + 1) :
    goOnFrom u d left c = goOnFrom u d (.binary (place c.current) op left right false) c₂ := by
  obtain ⟨hlo, hhi⟩ := precedence_bounds op
  induction d with
  | zero => omega
  | succ d ih =>
    by_cases hlevel : op.precedence = 6 - d
    · -- the level of the operator: below it there is nothing to fold, before and after
      have hbelow : ∀ {l : Expr} {c' : Cursor},
          (∀ op', BinaryOp.ofKind? c'.current.kind = some op' →
            op'.precedence < op.precedence + 1) → goOnFrom u d l c' = .ok l c' :=
        fun h => goOnFrom_stop (by omega) fun op' hop' => Nat.lt_of_lt_of_le (h op' hop') (by omega)
      have hbefore : goOnFrom u d left c = .ok left c := hbelow fun op' hop' => by
        rw [hop] at hop'
        cases hop'
        omega
      have hlook : (levelOf (6 - d)).lookup c.current.kind = some op := by
        rw [lookup_levelOf, hop]
        simp [Option.filter, hlevel]
      have hnext : upFrom u d c.advance = .ok right c₂ := by
        rw [show d = 6 - op.precedence by omega]
        exact hright
      have hlt : c.advance.left < c.left :=
        Cursor.left_advance_lt (by intro h; simp [h, BinaryOp.ofKind?] at hop)
      have hle := shrinks_upFrom hu d _ _ _ hnext
      have hsize := c.left_le_size
      obtain ⟨n, hn⟩ : ∃ n, c.size = n + 1 := ⟨c.rest.length, rfl⟩
      rw [goOnFrom, Reader.bind_ok hbefore, Reader.rounds_bind, hn, foldMany_some hlook,
        Reader.bind_ok hnext, goOnFrom, Reader.bind_ok (hbelow hstop), Reader.rounds_bind]
      exact foldMany_rounds (shrinks_upFrom hu d) (by omega) c₂.left_le_size
    · -- a level further up starts from what the levels below it make of both
      have ih := ih (by omega) (by omega)
      rw [goOnFrom, goOnFrom]
      exact Reader.bind_congr ih

/-- Where the right operand of an operator fails, going on from the left one fails alike. -/
theorem goOnFrom_error {u : Reader Expr} {d : Nat} (hd : d ≤ 6) {left : Expr}
    {c c₂ : Cursor} {op : BinaryOp} {x : SyntaxError}
    (hop : BinaryOp.ofKind? c.current.kind = some op) (hmin : 7 - d ≤ op.precedence)
    (hright : upFrom u (6 - op.precedence) c.advance = .error x c₂) :
    goOnFrom u d left c = .error x c₂ := by
  obtain ⟨hlo, hhi⟩ := precedence_bounds op
  induction d with
  | zero => omega
  | succ d ih =>
    by_cases hlevel : op.precedence = 6 - d
    · have hbefore : goOnFrom u d left c = .ok left c := goOnFrom_stop (by omega) fun op' hop' => by
        rw [hop] at hop'
        cases hop'
        omega
      have hlook : (levelOf (6 - d)).lookup c.current.kind = some op := by
        rw [lookup_levelOf, hop]
        simp [Option.filter, hlevel]
      have hnext : upFrom u d c.advance = .error x c₂ := by
        rw [show d = 6 - op.precedence by omega]
        exact hright
      obtain ⟨n, hn⟩ : ∃ n, c.size = n + 1 := ⟨c.rest.length, rfl⟩
      rw [goOnFrom, Reader.bind_ok hbefore, Reader.rounds_bind, hn, foldMany_some hlook,
        Reader.bind_error hnext]
    · rw [goOnFrom, Reader.bind_error (ih (by omega) (by omega))]

/-! ## Operands agree -/

section Operands

variable {element expression : Reader Expr} {n : Nat}

theorem moreArguments_stop {r : Nat} {c : Cursor} (h : c.current.kind ≠ .comma) :
    moreArguments expression r c = .ok [] c := by
  cases r with
  | zero => rfl
  | succ r =>
    rw [moreArguments, Reader.peek_bind, if_neg h]
    rfl

theorem moreArguments_comma {r : Nat} {c : Cursor} (h : c.current.kind = .comma) :
    moreArguments expression (r + 1) c =
      (do
        let e ← expression
        let es ← moreArguments expression r
        return e :: es : Reader (List Expr)) c.advance := by
  rw [moreArguments, Reader.peek_bind, if_pos h]
  rfl

/-- What follows an element of a list: another one, or the end. -/
def afterElement (element : Reader Expr) (close : Kind) (r : Nat) (e : Expr) :
    Reader (List Expr) := do
  if (← Reader.peek) = .comma then
    let _ ← Reader.take
    let es ← Expr.elements element close r
    return e :: es
  else
    let _ ← Reader.expect close
    return [e]

/-- A list is its first element and what follows it. -/
theorem elements_succ (close : Kind) (r : Nat) :
    Expr.elements element close (r + 1) = element >>= afterElement element close r := rfl

/-- After an element of a list. The rounds of both loops only have to reach the end of the
input. -/
theorem agree_afterElement
    (hexpr : ∀ c, c.left ≤ n → Agree Expr.bare c.left (element c) (expression c))
    (htakes : ∀ c e c', element c = .ok e c' → c'.left < c.left) (close : Kind) {r : Nat} :
    ∀ {r' : Nat} {c : Cursor} (e : Expr), c.left ≤ n → c.left ≤ r → c.left ≤ r' →
      Agree Expr.bareList c.left (afterElement element close r e c)
        ((do
          let es ← moreArguments expression r'
          let _ ← Reader.expect close
          return e.bare :: es : Reader (List Expr)) c) := by
  induction r with
  | zero =>
    intro r' c e hn hr hr'
    have hcomma : c.current.kind ≠ .comma := by
      rw [Cursor.current_eq_eof_of_left (Nat.le_zero.1 hr)]
      simp
    rw [afterElement, Reader.peek_bind, if_neg hcomma, Reader.bind_ok (moreArguments_stop hcomma)]
    exact .expect fun _ => ⟨left_advance_le c, rfl⟩
  | succ r ih =>
    intro r' c e hn hr hr'
    rw [afterElement, Reader.peek_bind]
    by_cases hcomma : c.current.kind = .comma
    · have hlt := Cursor.left_advance_lt (c := c) (by simp [hcomma])
      obtain ⟨r', rfl⟩ : ∃ k, r' = k + 1 := ⟨r' - 1, by omega⟩
      rw [if_pos hcomma, Reader.take_bind, elements_succ, bind_assoc]
      have hright : (do
          let es ← moreArguments expression (r' + 1)
          let _ ← Reader.expect close
          return e.bare :: es : Reader (List Expr)) c =
          (do
            let e' ← expression
            let es ← (do
              let es ← moreArguments expression r'
              let _ ← Reader.expect close
              return e' :: es)
            return e.bare :: es : Reader (List Expr)) c.advance := by
        rw [Reader.bind_congr (moreArguments_comma hcomma)]
        simp only [bind_assoc, pure_bind]
      rw [hright]
      refine Agree.bind ((hexpr _ (by omega)).mono (by omega)) fun e' c₁ he' hle => ?_
      have hlt' := htakes _ _ _ he'
      refine Agree.bind ((ih e' (by omega) (by omega) (by omega)).mono (by omega)) ?_
      exact fun es c₂ _ hle => ⟨hle, rfl⟩
    · rw [if_neg hcomma, Reader.bind_ok (moreArguments_stop hcomma)]
      exact .expect fun _ => ⟨left_advance_le c, rfl⟩

/-- Arguments agree if the expressions in them do. -/
theorem agree_arguments
    (hexpr : ∀ c, c.left ≤ n → Agree Expr.bare c.left (element c) (expression c))
    (htakes : ∀ c e c', element c = .ok e c' → c'.left < c.left) (close : Kind) {c : Cursor}
    (hn : c.left ≤ n) :
    Agree Expr.bareList c.left (Expr.arguments element close c)
      (arguments expression close c) := by
  simp only [Expr.arguments, Reader.liftM_self]
  rw [arguments, Reader.peek_bind, Reader.peek_bind]
  split
  · exact ⟨left_advance_le c, rfl⟩
  · obtain ⟨r, hr⟩ : ∃ r, c.size = r + 1 := ⟨c.rest.length, rfl⟩
    have hsize := c.left_le_size
    rw [Reader.rounds_bind, hr, elements_succ]
    refine Agree.bind (hexpr c hn) fun e c₁ he hle => ?_
    have hlt := htakes _ _ _ he
    rw [Reader.rounds_bind]
    exact (agree_afterElement hexpr htakes close e (by omega) (by omega)
      c₁.left_le_size).mono hle

/-- The calls of a chain agree if the expressions in them do. -/
theorem agree_calls
    (hexpr : ∀ c, c.left ≤ n → Agree Expr.bare c.left (element c) (expression c))
    (htakes : ∀ c e c', element c = .ok e c' → c'.left < c.left) {r : Nat} :
    ∀ {c : Cursor}, c.left ≤ n →
      Agree Call.bareList c.left (Expr.calls element r c) (calls expression r c) := by
  induction r with
  | zero => exact fun _ => ⟨Nat.le_refl _, rfl⟩
  | succ r ih =>
    intro c hn
    rw [calls, Reader.peek_bind, lookup_marks]
    cases hm : CallKind.ofKind? c.current.kind with
    | none =>
      rw [Expr.calls_none hm]
      exact ⟨Nat.le_refl _, rfl⟩
    | some kind =>
      rw [Expr.calls_some hm]
      have hlt : c.advance.left < c.left :=
        Cursor.left_advance_lt (by intro h; simp [h, CallKind.ofKind?] at hm)
      refine Agree.expect (c := c.advance) fun hname => ?_
      have hle₁ := left_advance_le c.advance
      show Agree _ _ ((Expr.callArguments element >>= _) c.advance.advance) _
      rw [Expr.callArguments, bind_assoc]
      refine Agree.expect fun hparen => ?_
      have hle₂ := left_advance_le c.advance.advance
      refine Agree.bind ((agree_arguments hexpr htakes .rParen (by omega)).mono (by omega))
        fun es c₁ _ hle => ?_
      refine Agree.bind ((ih (by omega)).mono hle) fun cs c₂ _ hle => ?_
      exact ⟨hle, rfl⟩

/-- A chain agrees if the expressions in it do. -/
theorem agree_chain
    (hexpr : ∀ c, c.left ≤ n → Agree Expr.bare c.left (element c) (expression c))
    (htakes : ∀ c e c', element c = .ok e c' → c'.left < c.left) (source : Token)
    (keyword : Bool) {c : Cursor} (hn : c.left ≤ n) :
    Agree Expr.bare c.left (Expr.chainFrom element source keyword c)
      (chain expression source keyword c) := by
  rw [Expr.chainFrom, chain, Reader.liftM_self, Reader.rounds_bind, Reader.rounds_bind]
  refine Agree.bind (agree_calls hexpr htakes hn) fun cs c₁ _ hle => ?_
  cases cs with
  | nil => cases keyword <;> exact ⟨hle, rfl⟩
  | cons call cs => cases keyword <;> exact ⟨hle, rfl⟩

/-- An operand agrees if the expressions in it do. -/
theorem agree_primary [Regex.Engine]
    (hexpr : ∀ c, c.left ≤ n → Agree Expr.bare c.left (element c) (expression c))
    (htakes : ∀ c e c', element c = .ok e c' → c'.left < c.left) {c : Cursor}
    (hn : c.left ≤ n + 1) :
    Agree Expr.bare c.left (Expr.primary element c) (primary expression c) := by
  have hle := left_advance_le c
  have hlt : c.current.kind ≠ .eof → c.advance.left < c.left := Cursor.left_advance_lt
  rw [primary, Reader.peek_bind]
  cases hk : c.current.kind
  case number =>
    rw [Expr.primary_number hk]
    exact Agree.literal (c := c.advance) fun v => ⟨hle, rfl⟩
  case duration =>
    rw [Expr.primary_duration hk]
    exact Agree.literal (c := c.advance) fun v => ⟨hle, rfl⟩
  case reference =>
    rw [Expr.primary_reference hk]
    exact Agree.literal (c := c.advance) fun v => ⟨hle, rfl⟩
  case regex =>
    rw [Expr.primary_regex hk]
    exact Agree.literal (c := c.advance) fun v => ⟨hle, rfl⟩
  case string =>
    rw [Expr.primary_string hk]
    exact Agree.literal (c := c.advance) fun v => ⟨hle, rfl⟩
  case boolean =>
    rw [Expr.primary_boolean hk]
    exact ⟨hle, rfl⟩
  case star =>
    rw [Expr.primary_star hk]
    exact ⟨hle, rfl⟩
  case lBracket =>
    have hlt := hlt (by simp [hk])
    rw [Expr.primary_lBracket hk]
    refine Agree.bind (c := c.advance)
      ((agree_arguments hexpr htakes .rBracket (by omega)).mono hle) fun es c₁ _ hle => ?_
    exact ⟨hle, rfl⟩
  case lambda =>
    have hlt := hlt (by simp [hk])
    rw [Expr.primary_lambda hk]
    refine Agree.expect (c := c.advance) fun _ => ?_
    have hle₁ := left_advance_le c.advance
    refine Agree.bind ((hexpr _ (by omega)).mono (by omega)) fun e c₁ _ hle => ?_
    exact ⟨hle, rfl⟩
  case lParen =>
    have hlt := hlt (by simp [hk])
    rw [Expr.primary_lParen hk]
    refine Agree.bind (c := c.advance) ((hexpr _ (by omega)).mono hle) fun e c₁ _ hle => ?_
    refine Agree.expect fun _ => ?_
    refine ⟨Nat.le_trans (left_advance_le c₁) hle, congrArg (EStateM.Result.ok · _) ?_⟩
    rw [Expr.bare_inParens]
    cases e.bare <;> rfl
  case identifier =>
    have hlt := hlt (by simp [hk])
    by_cases hp : c.advance.current.kind = .lParen
    · have hle₁ := left_advance_le c.advance
      rw [Expr.primary_call hk hp]
      show Agree _ _ _ ((if c.advance.current.kind = .lParen then _ else _ : Reader Expr) c.advance)
      rw [if_pos hp]
      refine Agree.bind (c := c.advance.advance)
        ((agree_arguments hexpr htakes .rParen (by omega)).mono (by omega)) fun es c₁ _ hle => ?_
      exact ⟨hle, rfl⟩
    · rw [Expr.primary_identifier hk hp]
      show Agree _ _ _ ((if c.advance.current.kind = .lParen then _ else _ : Reader Expr) c.advance)
      rw [if_neg hp]
      exact (agree_chain hexpr htakes c.current false (by omega)).mono hle
  case stream | batch =>
    have hlt := hlt (by simp [hk])
    rw [Expr.primary_keyword (by simp [hk])]
    exact (agree_chain hexpr htakes c.current true (by omega)).mono hle
  all_goals
    rw [Expr.primary_fail (by rw [hk]; rfl)]
    exact .fail _ _

end Operands

/-! ## Climbing agrees -/

/-- Operands and climbs within a budget, against unary operands and levels over any number of
tokens that is enough. -/
theorem agree_operand_climb [Regex.Engine] (b : Nat) :
    (∀ {fuel : Nat} {c : Cursor}, c.left ≤ fuel →
      Agree Expr.bare c.left (Expr.operand b c) (unary fuel c)) ∧
    (∀ {fuel d : Nat} {left : Expr} {c : Cursor}, c.left ≤ fuel → d ≤ 6 →
      Agree Expr.bare c.left (Expr.climb b (7 - d) left c)
        (goOnFrom (unary fuel) d left.bare c)) := by
  -- on the budget: a run that needs more than there is ends as too deep, and `Agree` asks nothing
  -- of the other side then
  induction b with
  | zero =>
    refine ⟨fun {fuel c} _ => ?_, fun {fuel d left c} _ hd => ?_⟩
    · rw [Expr.operand_zero]
      exact .inl rfl
    · by_cases hstop : ∀ op, BinaryOp.ofKind? c.current.kind = some op → op.precedence < 7 - d
      · rw [Expr.climb_stop hstop, goOnFrom_stop hd hstop]
        exact ⟨Nat.le_refl _, rfl⟩
      · obtain ⟨op, hop, hmin⟩ := by simpa using hstop
        rw [Expr.climb_zero hop (by omega)]
        exact .inl rfl
  | succ b ih =>
    obtain ⟨ihop, ihclimb⟩ := ih
    -- climbing from the minimum `7 - d` is reading `d` levels up from the unary operands
    have hlevels : ∀ {fuel d : Nat} {c : Cursor}, c.left ≤ fuel → d ≤ 6 →
        Agree Expr.bare c.left (Expr.operation b (7 - d) c) (upFrom (unary fuel) d c) := by
      intro fuel d c hle hd
      rw [upFrom_eq_bind]
      refine Agree.bind (ihop hle) fun l c₁ _ hle₁ => ?_
      exact (ihclimb (Nat.le_trans hle₁ hle) hd).mono hle₁
    refine ⟨fun {fuel c} hle => ?_, fun {fuel d left c} hle hd => ?_⟩
    · cases fuel with
      | zero =>
        have heof := Cursor.current_eq_eof_of_left (Nat.le_zero.1 hle)
        rw [Expr.operand_primary (by rw [heof]; rfl), Expr.primary_fail (by rw [heof]; rfl)]
        exact .fail _ _
      | succ fuel =>
        rw [unary, Reader.peek_bind, lookup_prefixes]
        cases hop : UnaryOp.ofKind? c.current.kind with
        | some op =>
          have hlt : c.advance.left < c.left :=
            Cursor.left_advance_lt (by intro h; simp [h, UnaryOp.ofKind?] at hop)
          rw [Expr.operand_unary hop]
          refine Agree.bind (c := c.advance) ((ihop (by omega)).mono (by omega))
            fun e c₁ _ hle => ?_
          exact ⟨hle, rfl⟩
        | none =>
          rw [Expr.operand_primary hop]
          refine agree_primary (n := fuel) (fun c hle => ?_) (fun c e c' he => ?_) hle
          · rw [expressionOver_eq]
            exact hlevels hle (Nat.le_refl 6)
          · obtain ⟨l, c₁, hl, he⟩ := Reader.bind_eq_ok.1 he
            have h₁ := ((derives_operand_climb b).1 hl).left_le
            have h₂ := ((derives_operand_climb b).2 he).left_le
            simp only [Goal.least] at h₁ h₂
            omega
    · by_cases hstop : ∀ op, BinaryOp.ofKind? c.current.kind = some op → op.precedence < 7 - d
      · rw [Expr.climb_stop hstop, goOnFrom_stop hd hstop]
        exact ⟨Nat.le_refl _, rfl⟩
      · obtain ⟨op, hop, hmin⟩ := by simpa using hstop
        obtain ⟨hlo, hhi⟩ := precedence_bounds op
        have hlt : c.advance.left < c.left :=
          Cursor.left_advance_lt (by intro h; simp [h, BinaryOp.ofKind?] at hop)
        -- the right side of `op` is read on the level above, which is what `+ 1` is for
        have hright := @hlevels fuel (6 - op.precedence) c.advance (by omega)
          (by omega)
        rw [show 7 - (6 - op.precedence) = op.precedence + 1 by omega] at hright
        rw [Expr.climb_fold hop (by omega)]
        cases hr : Expr.operation b (op.precedence + 1) c.advance with
        | error x c₂ =>
          rw [hr] at hright
          rw [Reader.bind_error hr]
          rcases hright with htoo | hright
          · exact .inl htoo
          · exact .inr (goOnFrom_error hd hop (by omega) hright)
        | ok r c₂ =>
          rw [hr] at hright
          obtain ⟨hle₂, hright⟩ := hright
          obtain ⟨r₀, c₁, -, hr⟩ := Reader.bind_eq_ok.1 hr
          -- nothing is left for the levels in between, as the climb on the right has stopped
          rw [Reader.bind_ok (by assumption), goOnFrom_fold (shrinks_unary fuel) hd hop (by omega)
            hright ((derives_operand_climb b).2 hr).climb_stops, ← Expr.bare_fold]
          exact (ihclimb (by omega) hd).mono (by omega)

end Layered

end Tickscript
