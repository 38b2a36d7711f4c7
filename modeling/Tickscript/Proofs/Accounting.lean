import Tickscript.Proofs.Derivation

/-!
# What tokens a tree accounts for

Every token that the reader takes leaves a trace in the tree, apart from parentheses, which leave
none or only a mark. Some kinds leave the same trace: words that can stand for names, and the two
kinds of quotes that a `dbrp` line may use. `Expr.kinds` lists the traces behind a tree, and
`Derives.account` says that a run took exactly the tokens that leave them. So two trees that are the
same were read off the same tokens up to parentheses, and no run takes malformed input.
-/

namespace Tickscript

open Cursor (Took)

/-! ## Operators and their tokens -/

/-- The kind of token that the operator is. -/
def UnaryOp.kind : UnaryOp → Kind
  | negate => .minus
  | not => .not

/-- The kind of token that the operator is. -/
def BinaryOp.kind : BinaryOp → Kind
  | equal => .eqEq
  | notEqual => .notEq
  | lessThan => .lt
  | greaterThan => .gt
  | lessEqual => .ltEq
  | greaterEqual => .gtEq
  | regexMatch => .regexEq
  | regexNotMatch => .regexNotEq
  | add => .plus
  | subtract => .minus
  | multiply => .star
  | divide => .slash
  | modulo => .percent
  | and => .and
  | or => .or

/-- The kind of token that introduces the call, if one does. -/
def CallKind.kind? : CallKind → Option Kind
  | global => none
  | chain => some .pipe
  | property => some .dot
  | dynamic => some .atSign

/-- Every unary operator has one kind of token, and the token of that kind is the operator. -/
theorem UnaryOp.ofKind?_eq_some {k : Kind} {op : UnaryOp} : ofKind? k = some op ↔ k = op.kind := by
  cases k <;> cases op <;> simp [ofKind?, kind]

/-- A binary operator is found again by the kind of its token. -/
theorem BinaryOp.ofKind?_kind (op : BinaryOp) : ofKind? op.kind = some op := by
  cases op <;> rfl

/-- A token that is a binary operator has the kind of that operator. -/
theorem BinaryOp.kind_of_ofKind? {k : Kind} {op : BinaryOp} (h : ofKind? k = some op) :
    k = op.kind := by
  cases k <;> simp only [ofKind?, Option.some.injEq, reduceCtorEq] at h <;> subst h <;> rfl

/-- A token that introduces a call has the kind by which the call is traced. -/
theorem CallKind.kind?_of_ofKind? {k : Kind} {call : CallKind} (h : ofKind? k = some call) :
    call.kind? = some k := by
  cases k <;> simp only [ofKind?, Option.some.injEq, reduceCtorEq] at h <;> subst h <;> rfl

/-! ## The traces of tokens in a tree -/

/-- What a token of some kind leaves in a tree. -/
def Kind.trace? : Kind → Option Kind
  | lParen | rParen => none
  | stream | batch | lambda => some identifier
  | string => some reference
  | k => some k

/-- The traces of a list of tokens. -/
def traces (ts : List Token) : List Kind := ts.filterMap fun t => t.kind.trace?

@[simp]
theorem traces_nil : traces [] = [] := rfl

/-- A token of a kind that leaves a trace adds that trace in front. -/
theorem traces_cons_of_some {t : Token} {k : Kind} (h : t.kind.trace? = some k) (ts : List Token) :
    traces (t :: ts) = k :: traces ts := by
  simp [traces, h]

/-- A parenthesis leaves no trace, so it adds nothing. -/
theorem traces_cons_of_none {t : Token} (h : t.kind.trace? = none) (ts : List Token) :
    traces (t :: ts) = traces ts := by
  simp [traces, h]

/-- The traces of a row of tokens are those of its parts, one after the other. -/
@[simp]
theorem traces_append (ts us : List Token) : traces (ts ++ us) = traces ts ++ traces us := by
  simp [traces]

/-- Malformed input leaves a trace. -/
theorem error_mem_traces {ts : List Token} {t : Token} (ht : t ∈ ts) (hk : t.kind = .error) :
    Kind.error ∈ traces ts :=
  List.mem_filterMap.2 ⟨t, ht, by rw [hk]; rfl⟩

mutual

/-- The traces of the tokens that an expression was read from. -/
def Expr.kinds : Expr → List Kind
  | .number .. => [.number]
  | .string .. => [.reference]
  | .duration .. => [.duration]
  | .regex .. => [.regex]
  | .bool .. => [.boolean]
  | .star .. => [.star]
  | .list _ es => .lBracket :: Expr.kindsList es ++ [.rBracket]
  | .identifier .. => [.identifier]
  | .reference .. => [.reference]
  | .lambda _ b => .identifier :: .colon :: b.kinds
  | .unary _ op e => op.kind :: e.kinds
  | .binary _ op l r _ => l.kinds ++ op.kind :: r.kinds
  | .function c => c.kinds
  | .chain _ _ cs => .identifier :: Call.kindsList cs

/-- The traces of the tokens that a call was read from. -/
def Call.kinds : Call → List Kind
  | .mk _ k _ as => k.kind?.toList ++ .identifier :: Expr.kindsList as

/-- The traces of the tokens that expressions between commas were read from. -/
def Expr.kindsList : List Expr → List Kind
  | [] => []
  | [e] => e.kinds
  | e :: es => e.kinds ++ .comma :: Expr.kindsList es

/-- The traces of the tokens that the calls of a chain were read from. -/
def Call.kindsList : List Call → List Kind
  | [] => []
  | c :: cs => c.kinds ++ Call.kindsList cs

end

attribute [simp] Expr.kinds Call.kinds Expr.kindsList Call.kindsList

/-- Which tokens an expression was made of does not depend on the comment above it. -/
theorem Expr.kinds_withComment (c : Option Comment) (e : Expr) :
    (e.withComment c).kinds = e.kinds := by
  cases e with
  | function call =>
    cases call
    rfl
  | _ => rfl

/-- Taking the leading comment off an expression leaves the kinds of its tokens alone. -/
theorem Expr.kinds_takeLeadingComment (e : Expr) : e.takeLeadingComment.2.kinds = e.kinds := by
  refine apply_takeLeadingComment kinds_withComment (fun o op l l' r p h => ?_) e
  rw [kinds, kinds, h]

/-- Folding an operator puts its kind between those of the two operands. -/
theorem Expr.kinds_fold (l : Expr) (t : Token) (op : BinaryOp) (r : Expr) :
    (l.fold t op r).kinds = l.kinds ++ op.kind :: r.kinds := by
  simp [Expr.fold, Expr.kinds, kinds_takeLeadingComment]

/-- Parentheses leave no trace, so an expression inside of them has the kinds it has without. -/
theorem Expr.kinds_inParens (c : Option Comment) (e : Expr) : (e.inParens c).kinds = e.kinds := by
  refine apply_inParens kinds_withComment (fun x => ?_) c e
  cases x <;> simp [parenthesize, kinds]

/-- Neither malformed input nor the end of input. -/
def Kind.isProper (k : Kind) : Bool := k != .error && k != .eof && k != .comment

mutual

/-- No kind that an expression stands for is the end of input or malformed input. -/
theorem Expr.kinds_proper (e : Expr) : ∀ k ∈ e.kinds, k.isProper = true := by
  match e with
  | .number .. | .string .. | .duration .. | .regex .. | .bool .. | .star .. | .identifier ..
  | .reference .. => simp [Expr.kinds, Kind.isProper]
  | .list _ es =>
    have ih := Expr.kindsList_proper es
    intro k hk
    simp only [Expr.kinds, List.cons_append, List.mem_cons, List.mem_append, List.not_mem_nil,
      or_false] at hk
    rcases hk with rfl | hk | rfl
    · rfl
    · exact ih k hk
    · rfl
  | .lambda _ b =>
    have ih := b.kinds_proper
    intro k hk
    simp only [Expr.kinds, List.mem_cons] at hk
    rcases hk with rfl | rfl | hk
    · rfl
    · rfl
    · exact ih k hk
  | .unary _ op x =>
    have ih := x.kinds_proper
    intro k hk
    simp only [Expr.kinds, List.mem_cons] at hk
    rcases hk with rfl | hk
    · cases op <;> rfl
    · exact ih k hk
  | .binary _ op l r _ =>
    have ihl := l.kinds_proper
    have ihr := r.kinds_proper
    intro k hk
    simp only [Expr.kinds, List.mem_append, List.mem_cons] at hk
    rcases hk with hk | rfl | hk
    · exact ihl k hk
    · cases op <;> rfl
    · exact ihr k hk
  | .function c => exact c.kinds_proper
  | .chain _ _ cs =>
    have ih := Call.kindsList_proper cs
    intro k hk
    simp only [Expr.kinds, List.mem_cons] at hk
    rcases hk with rfl | hk
    · rfl
    · exact ih k hk

theorem Call.kinds_proper (c : Call) : ∀ k ∈ c.kinds, k.isProper = true := by
  match c with
  | .mk _ kind _ as =>
    have ih := Expr.kindsList_proper as
    intro k hk
    simp only [Call.kinds, List.mem_append, List.mem_cons] at hk
    rcases hk with hk | rfl | hk
    · cases kind <;> simp [CallKind.kind?] at hk <;> subst hk <;> rfl
    · rfl
    · exact ih k hk

theorem Expr.kindsList_proper (es : List Expr) :
    ∀ k ∈ Expr.kindsList es, k.isProper = true := by
  match es with
  | [] => simp [Expr.kindsList]
  | [e] => exact e.kinds_proper
  | e :: e' :: es =>
    have ih := e.kinds_proper
    have ihs := Expr.kindsList_proper (e' :: es)
    intro k hk
    simp only [Expr.kindsList, List.mem_append, List.mem_cons] at hk
    rcases hk with hk | rfl | hk
    · exact ih k hk
    · rfl
    · exact ihs k hk

theorem Call.kindsList_proper (cs : List Call) :
    ∀ k ∈ Call.kindsList cs, k.isProper = true := by
  match cs with
  | [] => simp [Call.kindsList]
  | c :: cs =>
    have ih := c.kinds_proper
    have ihs := Call.kindsList_proper cs
    intro k hk
    rcases List.mem_append.1 hk with hk | hk
    · exact ih k hk
    · exact ihs k hk

end

/-- What traces a run for a goal leaves. -/
def Goal.Accounts : Goal → List Kind → Prop
  | operand _ e, ks => ks = e.kinds
  | climb _ _ l e, ks => l.kinds ++ ks = e.kinds
  | expression _ e, ks => ks = e.kinds
  | arguments _ close es, ks => ks = Expr.kindsList es ++ close.trace?.toList
  | elements _ close es, ks => ks = Expr.kindsList es ++ close.trace?.toList ∧ es ≠ []
  | calls _ cs, ks => ks = Call.kindsList cs

/-- A run takes exactly the tokens whose traces are in its tree. -/
theorem Derives.account [Regex.Engine] {g : Goal} {c c' : Cursor} (h : Derives g c c') :
    ∃ ts, Took c ts c' ∧ g.Accounts (traces ts) := by
  have hone : ∀ {d : Cursor} {k : Kind}, d.current.kind = k → k ≠ .eof →
      Took d [d.current] d.advance := fun hk hne => .single (hk ▸ hne)
  induction h with
  | @unary c c' b op e hop _ ih =>
    obtain ⟨ts, ht, hk⟩ := ih
    have hkind := UnaryOp.ofKind?_eq_some.1 hop
    refine ⟨_, .cons (by rw [hkind]; cases op <;> simp [UnaryOp.kind]) ht, ?_⟩
    simp only [Goal.Accounts] at hk ⊢
    rw [traces_cons_of_some (k := op.kind) (by rw [hkind]; cases op <;> rfl), hk, Expr.kinds]
  | number hk | duration hk | string hk | reference hk | regex hk | boolean hk | star hk =>
    exact ⟨_, hone hk (by simp), by simp [Goal.Accounts, traces, hk, Kind.trace?, Expr.kinds]⟩
  | list hk _ ih =>
    obtain ⟨ts, ht, hts⟩ := ih
    refine ⟨_, .cons (by simp [hk]) ht, ?_⟩
    simp only [Goal.Accounts] at hts ⊢
    rw [traces_cons_of_some (k := .lBracket) (by rw [hk]; rfl), hts, Expr.kinds]
    rfl
  | lambda hk hc _ ih =>
    obtain ⟨ts, ht, hts⟩ := ih
    refine ⟨_, .cons (by simp [hk]) (.cons (by simp [hc]) ht), ?_⟩
    simp only [Goal.Accounts] at hts ⊢
    rw [traces_cons_of_some (k := .identifier) (by rw [hk]; rfl),
      traces_cons_of_some (k := .colon) (by rw [hc]; rfl), hts, Expr.kinds]
  | paren hk _ hc ih =>
    -- parentheses leave no trace, neither in the list of kinds nor in the tree
    obtain ⟨ts, ht, hts⟩ := ih
    refine ⟨_, .cons (by simp [hk]) (ht.append (hone hc (by simp))), ?_⟩
    simp only [Goal.Accounts] at hts ⊢
    rw [traces_cons_of_none (by rw [hk]; rfl), traces_append,
      traces_cons_of_none (by rw [hc]; rfl), hts, Expr.kinds_inParens]
    simp
  | function hk hp _ ih =>
    obtain ⟨ts, ht, hts⟩ := ih
    refine ⟨_, .cons (by simp [hk]) (.cons (by simp [hp]) ht), ?_⟩
    simp only [Goal.Accounts] at hts ⊢
    rw [traces_cons_of_some (k := .identifier) (by rw [hk]; rfl),
      traces_cons_of_none (by rw [hp]; rfl), hts]
    simp [Expr.kinds, Call.kinds, CallKind.kind?, Kind.trace?]
  | name hk =>
    exact ⟨_, hone hk (by simp), by simp [Goal.Accounts, traces, hk, Kind.trace?, Expr.kinds]⟩
  | @chain c c' b cs hk _ ih =>
    obtain ⟨ts, ht, hts⟩ := ih
    have hkind :
        c.current.kind = .identifier ∨ c.current.kind = .stream ∨ c.current.kind = .batch :=
      hk.imp_left And.left
    refine ⟨_, .cons (by rcases hkind with h | h | h <;> simp [h]) ht, ?_⟩
    simp only [Goal.Accounts] at hts ⊢
    rw [traces_cons_of_some (k := .identifier) (by rcases hkind with h | h | h <;> rw [h] <;> rfl),
      hts, Expr.kinds]
  | stop => exact ⟨[], .nil _, by simp [Goal.Accounts]⟩
  | @fold c c₁ c₂ c' b min op l r₀ r e hop _ _ _ _ ih₁ ih₂ ih₃ =>
    obtain ⟨ts₁, ht₁, hk₁⟩ := ih₁
    obtain ⟨ts₂, ht₂, hk₂⟩ := ih₂
    obtain ⟨ts₃, ht₃, hk₃⟩ := ih₃
    have hkind := BinaryOp.kind_of_ofKind? hop
    -- `l` was read before this run, so its traces stand in front of those of the new tokens
    refine ⟨_, .cons (by rw [hkind]; cases op <;> simp [BinaryOp.kind])
      (ht₁.append (ht₂.append ht₃)), ?_⟩
    simp only [Goal.Accounts] at hk₁ hk₂ hk₃ ⊢
    rw [traces_cons_of_some (k := op.kind) (by rw [hkind]; cases op <;> rfl), traces_append,
      traces_append, ← hk₃, Expr.kinds_fold, ← hk₂, hk₁]
    simp
  | expression _ _ ih₁ ih₂ =>
    obtain ⟨ts₁, ht₁, hk₁⟩ := ih₁
    obtain ⟨ts₂, ht₂, hk₂⟩ := ih₂
    refine ⟨_, ht₁.append ht₂, ?_⟩
    simp only [Goal.Accounts] at hk₁ hk₂ ⊢
    rw [traces_append, hk₁, hk₂]
  | noArguments hclose hk =>
    refine ⟨_, hone hk (by rcases hclose with h | h <;> simp [h]), ?_⟩
    rcases hclose with rfl | rfl <;> simp [Goal.Accounts, traces, hk, Kind.trace?, Expr.kindsList]
  | arguments _ _ ih =>
    obtain ⟨ts, ht, hts, -⟩ := ih
    exact ⟨ts, ht, hts⟩
  | last hclose _ hc ih =>
    obtain ⟨ts, ht, hts⟩ := ih
    refine ⟨_, ht.append (hone hc (by rcases hclose with h | h <;> simp [h])), ?_⟩
    simp only [Goal.Accounts] at hts ⊢
    refine ⟨?_, by simp⟩
    rw [traces_append, hts]
    rcases hclose with rfl | rfl <;> simp [traces, hc, Kind.trace?, Expr.kindsList]
  | @more c c₁ c' b close e es _ hk _ ih₁ ih₂ =>
    obtain ⟨ts₁, ht₁, hk₁⟩ := ih₁
    obtain ⟨ts₂, ht₂, hk₂, hne⟩ := ih₂
    refine ⟨_, ht₁.append (.cons (by simp [hk]) ht₂), ?_, by simp⟩
    simp only [Goal.Accounts] at hk₁
    rw [traces_append, traces_cons_of_some (k := .comma) (by rw [hk]; rfl), hk₁, hk₂]
    -- a comma has its trace only if another element follows, hence `es ≠ []` in the goal
    obtain ⟨e', es', rfl⟩ := List.exists_cons_of_ne_nil hne
    simp [Expr.kindsList]
  | noCalls => exact ⟨[], .nil _, by simp [Goal.Accounts, Call.kindsList]⟩
  | @call c c₁ c' b kind es cs hm hn hp _ _ ih₁ ih₂ =>
    obtain ⟨ts₁, ht₁, hk₁⟩ := ih₁
    obtain ⟨ts₂, ht₂, hk₂⟩ := ih₂
    have hkind : c.current.kind.trace? = some c.current.kind := by
      cases hk : c.current.kind <;> simp [hk, CallKind.ofKind?] at hm <;> rfl
    refine ⟨_, .cons (by intro h; simp [h, CallKind.ofKind?] at hm) (.cons (by simp [hn])
      (.cons (by simp [hp]) (ht₁.append ht₂))), ?_⟩
    simp only [Goal.Accounts] at hk₁ hk₂ ⊢
    rw [traces_cons_of_some hkind, traces_cons_of_some (k := .identifier) (by rw [hn]; rfl),
      traces_cons_of_none (by rw [hp]; rfl), traces_append, hk₁, hk₂]
    simp [Call.kindsList, Call.kinds, CallKind.kind?_of_ofKind? hm, Kind.trace?]

/-! ## Statements and programs -/

/-- The traces of the tokens that a statement was read from. -/
def Statement.kinds : Statement → List Kind
  | declare _ _ (.value e) => .var :: .identifier :: .assign :: e.kinds
  | declare _ _ (.template _) => [.var, .identifier, .identifier]
  | expr e => e.kinds

/-- The traces of the tokens that a `dbrp` line was read from. -/
def DbrpLine.kinds : List Kind := [.dbrp, .reference, .dot, .reference]

/-- The traces of the tokens that a program was read from. -/
def Program.kinds (p : Program) : List Kind :=
  (p.dbrps.flatMap fun _ => DbrpLine.kinds) ++ p.statements.flatMap Statement.kinds

/-- Statements stand for proper tokens only, as expressions do. -/
theorem Statement.kinds_proper (s : Statement) : ∀ k ∈ s.kinds, k.isProper = true := by
  match s with
  | .declare _ _ (.value e) =>
    intro k hk
    simp only [Statement.kinds, List.mem_cons] at hk
    rcases hk with rfl | rfl | rfl | hk
    · rfl
    · rfl
    · rfl
    · exact e.kinds_proper k hk
  | .declare _ _ (.template _) => simp [Statement.kinds, Kind.isProper]
  | .expr e => exact e.kinds_proper

/-- All tokens that a program accounts for are proper ones. -/
theorem Program.kinds_proper (p : Program) : ∀ k ∈ p.kinds, k.isProper = true := by
  intro k hk
  simp only [Program.kinds, List.mem_append, List.mem_flatMap] at hk
  rcases hk with ⟨_, _, hk⟩ | ⟨s, _, hk⟩
  · simp only [DbrpLine.kinds, List.mem_cons, List.not_mem_nil, or_false] at hk
    rcases hk with rfl | rfl | rfl | rfl <;> rfl
  · exact s.kinds_proper k hk

/-- A statement that was read accounts for the tokens that reading it took. -/
theorem DerivesStatement.account [Regex.Engine] {s : Statement} {c c' : Cursor}
    (h : DerivesStatement s c c') :
    ∃ ts, Took c ts c' ∧ traces ts = s.kinds := by
  cases h with
  | expr _ he => exact he.account
  | value hk hn ha he =>
    obtain ⟨ts, ht, hts⟩ := he.account
    refine ⟨_, .cons (by simp [hk]) (.cons (by simp [hn]) (.cons (by simp [ha]) ht)), ?_⟩
    simp only [Goal.Accounts] at hts
    rw [traces_cons_of_some (k := .var) (by rw [hk]; rfl),
      traces_cons_of_some (k := .identifier) (by rw [hn]; rfl),
      traces_cons_of_some (k := .assign) (by rw [ha]; rfl), hts, Statement.kinds]
  | template hk hn ht =>
    have hword := (kind_of_typeName? ht).1
    refine ⟨_, .cons (by simp [hk]) (.cons (by simp [hn]) (.single ?_)), ?_⟩
    · rcases hword with h | h <;> simp [h]
    · rw [traces_cons_of_some (k := .var) (by rw [hk]; rfl),
        traces_cons_of_some (k := .identifier) (by rw [hn]; rfl),
        traces_cons_of_some (k := .identifier) (by rcases hword with h | h <;> rw [h] <;> rfl)]
      rfl

/-- So do all statements together, and reading them stops at the end of input. -/
theorem DerivesStatements.account [Regex.Engine] {ss : List Statement} {c c' : Cursor}
    (h : DerivesStatements ss c c') :
    ∃ ts, Took c ts c' ∧ traces ts = ss.flatMap Statement.kinds ∧ c'.current.kind = .eof := by
  induction h with
  | nil hk => exact ⟨[], .nil _, rfl, hk⟩
  | cons _ hs _ ih =>
    obtain ⟨ts, ht, hts⟩ := hs.account
    obtain ⟨us, hu, hus, heof⟩ := ih
    exact ⟨ts ++ us, ht.append hu, by rw [traces_append, hts, hus, List.flatMap_cons], heof⟩

/-- Each `dbrp` line accounts for the tokens that reading it took. -/
theorem DerivesDbrps.account {ds : List DbrpLine} {c c' : Cursor} (h : DerivesDbrps ds c c') :
    ∃ ts, Took c ts c' ∧ traces ts = ds.flatMap fun _ => DbrpLine.kinds := by
  induction h with
  | nil => exact ⟨[], .nil _, rfl⟩
  | cons hk hdb _ hdot hrp _ _ ih =>
    obtain ⟨ts, ht, hts⟩ := ih
    refine ⟨_, .cons (by simp [hk]) (.cons ?_ (.cons (by simp [hdot]) (.cons ?_ ht))), ?_⟩
    · rcases hdb with h | h <;> simp [h]
    · rcases hrp with h | h <;> simp [h]
    · rw [traces_cons_of_some (k := .dbrp) (by rw [hk]; rfl),
        traces_cons_of_some (k := .reference) (by rcases hdb with h | h <;> rw [h] <;> rfl),
        traces_cons_of_some (k := .dot) (by rw [hdot]; rfl),
        traces_cons_of_some (k := .reference) (by rcases hrp with h | h <;> rw [h] <;> rfl), hts]
      rfl

/-- A program takes exactly the tokens before the end of input. -/
theorem account_program [Regex.Engine] {ts : List Token} {p : Program}
    (h : Program.ofTokens ts = .ok p) :
    ∃ us c, Took (.ofList ts) us c ∧ c.current.kind = .eof ∧ traces us = p.kinds ∧
      Program.reader (.ofList ts) =
        .ok p { c with current := { c.current with comment := none } } := by
  obtain ⟨c₁, c₂, hds, hss, -, hrun⟩ := derives_program h
  obtain ⟨us, hu, hus⟩ := hds.account
  obtain ⟨vs, hv, hvs, heof⟩ := hss.account
  exact ⟨us ++ vs, c₂, hu.append hv, heof, by rw [traces_append, hus, hvs, Program.kinds], hrun⟩

end Tickscript
