import Tickscript.Pattern.Limits
import Tickscript.Proofs.Positions
import Tickscript.Proofs.Representation

/-!
# Trees stand in the order of their source

A tree is read token by token from the left, but it does not grow that way: an operator takes the
whole tree on its left as its operand, parentheses leave no node behind, and a chain hangs its calls
one behind the other. `Expr.positions` lists the places of the nodes of a tree in the order that
reading it aloud has, an operator between its operands and every other node before what is inside
it. The result, `Program.positions_increasing`, is that these places only ever go forward in the
source.

There are two halves to it. Tokens stand one behind the other (`Lexer.offsets_tokens`). And a run of
the reader takes tokens among which the nodes of its tree are found in order (`Derives.inOrder`).
-/

namespace Tickscript

open Cursor (Took)
open scoped List

/-! ## Tokens -/

namespace Position

/-- A character takes up its bytes. -/
theorem offset_step (p : Position) (c : Char) : (p.step c).offset = p.offset + c.utf8Size := by
  unfold step
  split <;> rfl

/-- Offsets never go back. -/
theorem offset_le_advance (p : Position) (cs : List Char) : p.offset ≤ (p.advance cs).offset := by
  induction cs generalizing p with
  | nil => exact Nat.le_refl _
  | cons c cs ih =>
    have hstep := p.offset_step c
    have hrest := ih (p.step c)
    rw [advance_cons]
    omega

/-- Every character takes up a byte at least. -/
theorem offset_lt_advance (p : Position) {cs : List Char} (h : cs ≠ []) :
    p.offset < (p.advance cs).offset := by
  obtain ⟨c, cs, rfl⟩ := List.exists_cons_of_ne_nil h
  have hstep := p.offset_step c
  have hsize := c.utf8Size_pos
  have hrest := (p.step c).offset_le_advance cs
  rw [advance_cons]
  omega

end Position

/-- No token stands before the place where the lexer is. -/
theorem Lexer.offset_le_next (l : Lexer) : l.position.offset ≤ l.next.1.position.offset :=
  l.position.offset_le_advance _

/-- There is a token in every source, the end at least. -/
theorem Lexer.tokens_ne_nil (l : Lexer) : l.tokens ≠ [] := by
  by_cases hk : l.next.1.kind = .eof
  · simp [tokens_eof hk]
  · simp [tokens_cons hk]

/-- Each token stands behind the one before it. -/
theorem Lexer.offsets_tokens (l : Lexer) :
    (∀ t ∈ l.tokens, l.position.offset ≤ t.position.offset) ∧
      l.tokens.Pairwise (·.position.offset < ·.position.offset) := by
  induction hn : l.rest.length using Nat.strongRecOn generalizing l with
  | _ n ih =>
    have hnext := l.offset_le_next
    by_cases hk : l.next.1.kind = .eof
    · rw [tokens_eof hk]
      simpa using hnext
    · obtain ⟨hlater, hpairs⟩ := ih _ (hn ▸ l.next_rest_length_lt hk) l.next.2 rfl
      have htaken : l.next.1.position.offset < l.next.2.position.offset :=
        l.next.1.position.offset_lt_advance (l.faithful_segment.takesUp.ne_nil hk)
      rw [tokens_cons hk, List.pairwise_cons, List.forall_mem_cons]
      refine ⟨⟨hnext, fun t ht => ?_⟩, fun t ht => ?_, hpairs⟩
      · have := hlater t ht
        omega
      · exact Nat.lt_of_lt_of_le htaken (hlater t ht)

/-! ## The places of nodes -/

mutual

/-- The places of an expression and of what is inside it, from left to right: an operator between
its operands, and every other node before its parts. -/
def Expr.positions : Expr → List Position
  | .list o es => o.position :: Expr.positionsList es
  | .lambda o body => o.position :: body.positions
  | .unary o _ e => o.position :: e.positions
  | .binary o _ l r _ => l.positions ++ o.position :: r.positions
  | .function (.mk o _ _ args) => o.position :: Expr.positionsList args
  | .chain _ s cs => s.origin.position :: Call.positionsList cs
  | .number o _ | .string o _ _ | .duration o _ | .regex o _ | .bool o _ | .star o
  | .identifier o _ | .reference o _ => [o.position]

/-- The places of some expressions, one behind the other. -/
def Expr.positionsList : List Expr → List Position
  | [] => []
  | e :: es => e.positions ++ Expr.positionsList es

/-- The places of some calls, each before those of its arguments. -/
def Call.positionsList : List Call → List Position
  | [] => []
  | .mk o _ _ args :: cs => o.position :: Expr.positionsList args ++ Call.positionsList cs

end

attribute [simp] Expr.positions Expr.positionsList Call.positionsList

/-- The places of a statement: a declaration and its name stand before its value. -/
def Statement.positions : Statement → List Position
  | declare o name (.value e) => o.position :: name.origin.position :: e.positions
  | declare o name (.template _) => [o.position, name.origin.position]
  | expr e => e.positions

/-- The places of a program: those of its `dbrp` lines, then those of its statements. -/
def Program.positions (p : Program) : List Position :=
  p.dbrps.map (·.origin.position) ++ p.statements.flatMap Statement.positions

namespace Expr

/-- Another comment leaves every node in its place. -/
theorem positions_withComment (c : Option Comment) (e : Expr) :
    (e.withComment c).positions = e.positions := by
  cases e with
  | function call =>
    cases call
    rfl
  | _ => rfl

/-- Taking a comment off leaves every node in its place. -/
theorem positions_takeLeadingComment (e : Expr) :
    e.takeLeadingComment.2.positions = e.positions := by
  refine apply_takeLeadingComment positions_withComment (fun o op l l' r p h => ?_) e
  rw [positions, positions, h]

/-- Parentheses leave no node behind. -/
theorem positions_inParens (c : Option Comment) (e : Expr) :
    (e.inParens c).positions = e.positions := by
  refine apply_inParens positions_withComment (fun x => ?_) c e
  cases x <;> simp [parenthesize, positions]

/-- A folded operator comes behind all of its left operand. -/
theorem positions_fold (l : Expr) (t : Token) (op : BinaryOp) (r : Expr) :
    (l.fold t op r).positions = l.positions ++ t.position :: r.positions := by
  have horigin : ∀ leading, (foldedOrigin leading t).position = t.position := by
    intro leading
    cases leading <;> rfl
  rw [fold, positions, positions_takeLeadingComment, horigin]

theorem positionsList_eq (es : List Expr) : positionsList es = es.flatMap positions := by
  induction es with
  | nil => rfl
  | cons e es ih => rw [positionsList, ih, List.flatMap_cons]

/-- The places in an argument are among those of all arguments. -/
theorem positions_arguments {x : Expr} {es : List Expr} (h : x ∈ es) :
    x.positions <+ positionsList es := by
  rw [positionsList_eq]
  exact List.sublist_flatten_of_mem (List.mem_map_of_mem h)

/-- The places in an argument of a call are among those of the calls. -/
theorem positions_calls {x : Expr} {cs : List Call} (h : x ∈ cs.flatMap Call.args) :
    x.positions <+ Call.positionsList cs := by
  induction cs with
  | nil => cases h
  | cons c cs ih =>
    obtain ⟨o, kind, name, args⟩ := c
    rcases List.mem_append.1 h with h | h
    · exact ((positions_arguments h).cons _).trans (List.sublist_append_left _ _)
    · exact (ih h).trans (List.sublist_append_right _ _)

/-- The places of a part are among those of the whole, in order. -/
theorem positions_children (e : Expr) : ∀ x ∈ e.children, x.positions <+ e.positions := by
  intro x hx
  cases e with
  | list o es => exact (positions_arguments hx).cons _
  | lambda | unary =>
    cases List.mem_singleton.1 hx
    exact .cons _ (.refl _)
  | binary o op l r p =>
    simp only [children, List.mem_cons, List.not_mem_nil, or_false] at hx
    rcases hx with rfl | rfl
    · exact List.sublist_append_left _ _
    · exact (List.sublist_cons_self _ _).trans (List.sublist_append_right _ _)
  | function call =>
    cases call
    exact (positions_arguments hx).cons _
  | chain o s cs => exact (positions_calls hx).cons _
  | _ => cases hx

/-- The places inside a part of an expression are among those of the expression. -/
theorem positions_subterms (e : Expr) : ∀ x ∈ e.subterms, x.positions <+ e.positions :=
  rel_subterms (fun _ => .refl _) .trans positions_children e

end Expr

/-- The places in an expression are among those of its program. -/
theorem Program.positions_exprs {p : Program} {e : Expr} (h : e ∈ p.exprs) :
    e.positions <+ p.positions := by
  obtain ⟨s, hs, he⟩ := List.mem_flatMap.1 h
  have hstatement : e.positions <+ s.positions := by
    match s with
    | .declare o name (.value v) => exact ((v.positions_subterms e he).cons _).cons _
    | .declare _ _ (.template _) => simp [Statement.exprs] at he
    | .expr v => exact v.positions_subterms e he
  have hmem : s.positions <+ p.statements.flatMap Statement.positions :=
    List.sublist_flatten_of_mem (List.mem_map_of_mem hs)
  exact (hstatement.trans hmem).trans (List.sublist_append_right _ _)

/-! ## Runs -/

/-- The nodes that a run for a goal gives stand in order among the places `ps` of the tokens it
takes; those that a climb starts with stand before them. -/
def Goal.InOrder : Goal → List Position → Prop
  | operand _ e, ps => e.positions <+ ps
  | climb _ _ l e, ps => e.positions <+ l.positions ++ ps
  | expression _ e, ps => e.positions <+ ps
  | arguments _ _ es, ps => Expr.positionsList es <+ ps
  | elements _ _ es, ps => Expr.positionsList es <+ ps
  | calls _ cs, ps => Call.positionsList cs <+ ps

/-- The lines of databases stand where their tokens do, in order. -/
theorem DerivesDbrps.inOrder {ds : List DbrpLine} {c c' : Cursor} (h : DerivesDbrps ds c c') :
    ∃ ts, Took c ts c' ∧ ds.map (·.origin.position) <+ ts.map Token.position := by
  induction h with
  | nil => exact ⟨[], .nil _, .refl _⟩
  | cons hk hdb _ hdot hrp _ _ ih =>
    obtain ⟨ts, ht, hts⟩ := ih
    refine ⟨_, .cons (by simp [hk]) (.cons ?_ (.cons (by simp [hdot]) (.cons ?_ ht))),
      (((hts.cons _).cons _).cons _).cons_cons _⟩
    · rcases hdb with h | h <;> simp [h]
    · rcases hrp with h | h <;> simp [h]

section Trees

variable [Regex.Engine]

/-- The nodes of a tree are found in order among the tokens it is read from. -/
theorem Derives.inOrder {g : Goal} {c c' : Cursor} (h : Derives g c c') :
    ∃ ts, Took c ts c' ∧ g.InOrder (ts.map Token.position) := by
  have hone : ∀ {d : Cursor} {k : Kind}, d.current.kind = k → k ≠ .eof →
      Took d [d.current] d.advance := fun hk hne => .single (hk ▸ hne)
  induction h with
  | @unary c c' b op e hop _ ih =>
    obtain ⟨ts, ht, hts⟩ := ih
    have hkind := UnaryOp.ofKind?_eq_some.1 hop
    exact ⟨_, .cons (by rw [hkind]; cases op <;> simp [UnaryOp.kind]) ht, hts.cons_cons _⟩
  | number hk | duration hk | string hk | reference hk | regex hk | boolean hk | star hk
  | name hk => exact ⟨_, hone hk (by simp), .refl _⟩
  | list hk _ ih =>
    obtain ⟨ts, ht, hts⟩ := ih
    exact ⟨_, .cons (by simp [hk]) ht, hts.cons_cons _⟩
  | lambda hk hc _ ih =>
    obtain ⟨ts, ht, hts⟩ := ih
    exact ⟨_, .cons (by simp [hk]) (.cons (by simp [hc]) ht), (hts.cons _).cons_cons _⟩
  | paren hk _ hc ih =>
    obtain ⟨ts, ht, hts⟩ := ih
    refine ⟨_, .cons (by simp [hk]) (ht.append (hone hc (by simp))), ?_⟩
    -- neither parenthesis is a node
    simp only [Goal.InOrder, Expr.positions_inParens, List.map_cons, List.map_append] at hts ⊢
    exact (hts.trans (List.sublist_append_left _ _)).cons _
  | function hk hp _ ih =>
    obtain ⟨ts, ht, hts⟩ := ih
    exact ⟨_, .cons (by simp [hk]) (.cons (by simp [hp]) ht), (hts.cons _).cons_cons _⟩
  | @chain c c' b cs hk _ ih =>
    obtain ⟨ts, ht, hts⟩ := ih
    refine ⟨_, .cons ?_ ht, hts.cons_cons _⟩
    rcases hk with h | h | h <;> simp [h]
  | stop => exact ⟨[], .nil _, List.sublist_append_left _ _⟩
  | @fold c c₁ c₂ c' b min op l r₀ r e hop _ _ _ _ ih₁ ih₂ ih₃ =>
    obtain ⟨ts₁, ht₁, hr₀⟩ := ih₁
    obtain ⟨ts₂, ht₂, hr⟩ := ih₂
    obtain ⟨ts₃, ht₃, he⟩ := ih₃
    have hkind := BinaryOp.kind_of_ofKind? hop
    refine ⟨_, .cons (by rw [hkind]; cases op <;> simp [BinaryOp.kind])
      (ht₁.append (ht₂.append ht₃)), ?_⟩
    simp only [Goal.InOrder, Expr.positions_fold, List.map_cons, List.map_append] at hr₀ hr he ⊢
    have hright : r.positions <+ ts₁.map Token.position ++ ts₂.map Token.position :=
      hr.trans (hr₀.append_right _)
    -- the operator stands before its right operand, and both behind what is on the left
    have hnode := ((hright.cons_cons c.current.position).append_left l.positions).append_right
      (ts₃.map Token.position)
    simpa using he.trans hnode
  | expression _ _ ih₁ ih₂ =>
    obtain ⟨ts₁, ht₁, hl⟩ := ih₁
    obtain ⟨ts₂, ht₂, he⟩ := ih₂
    refine ⟨_, ht₁.append ht₂, ?_⟩
    simp only [Goal.InOrder, List.map_append] at hl he ⊢
    exact he.trans (hl.append_right _)
  | noArguments hclose hk =>
    exact ⟨_, hone hk (by rcases hclose with h | h <;> simp [h]), List.nil_sublist _⟩
  | arguments _ _ ih => exact ih
  | last hclose _ hc ih =>
    obtain ⟨ts, ht, hts⟩ := ih
    refine ⟨_, ht.append (hone hc (by rcases hclose with h | h <;> simp [h])), ?_⟩
    simp only [Goal.InOrder, Expr.positionsList, List.append_nil, List.map_append] at hts ⊢
    exact hts.trans (List.sublist_append_left _ _)
  | more _ hk _ ih₁ ih₂ =>
    obtain ⟨ts₁, ht₁, he⟩ := ih₁
    obtain ⟨ts₂, ht₂, hes⟩ := ih₂
    refine ⟨_, ht₁.append (.cons (by simp [hk]) ht₂), ?_⟩
    rw [List.map_append]
    exact he.append (hes.cons _)
  | noCalls => exact ⟨[], .nil _, .refl _⟩
  | @call c c₁ c' b kind es cs hm hn hp _ _ ih₁ ih₂ =>
    obtain ⟨ts₁, ht₁, hes⟩ := ih₁
    obtain ⟨ts₂, ht₂, hcs⟩ := ih₂
    refine ⟨_, .cons (by intro h; simp [h, CallKind.ofKind?] at hm) (.cons (by simp [hn])
      (.cons (by simp [hp]) (ht₁.append ht₂))), ?_⟩
    rw [List.map_cons, List.map_cons, List.map_cons, List.map_append]
    exact (((hes.append hcs).cons _).cons _).cons_cons _

/-- The nodes of a statement stand where tokens do that were taken for it, in order. -/
theorem DerivesStatement.inOrder {s : Statement} {c c' : Cursor} (h : DerivesStatement s c c') :
    ∃ ts, Took c ts c' ∧ s.positions <+ ts.map Token.position := by
  cases h with
  | expr _ he => exact he.inOrder
  | value hk hn ha he =>
    obtain ⟨ts, ht, hts⟩ := he.inOrder
    exact ⟨_, .cons (by simp [hk]) (.cons (by simp [hn]) (.cons (by simp [ha]) ht)),
      ((hts.cons _).cons_cons _).cons_cons _⟩
  | template hk hn htype =>
    have hword := (kind_of_typeName? htype).1
    refine ⟨_, .cons (by simp [hk]) (.cons (by simp [hn]) (.single ?_)),
      ((List.nil_sublist _).cons_cons _).cons_cons _⟩
    rcases hword with h | h <;> simp [h]

/-- So do those of all statements, up to the end of the input. -/
theorem DerivesStatements.inOrder {ss : List Statement} {c c' : Cursor}
    (h : DerivesStatements ss c c') :
    ∃ ts, Took c ts c' ∧ ss.flatMap Statement.positions <+ ts.map Token.position ∧
      c'.current.kind = .eof := by
  induction h with
  | nil hk => exact ⟨[], .nil _, .refl _, hk⟩
  | cons _ hs _ ih =>
    obtain ⟨ts, ht, hts⟩ := hs.inOrder
    obtain ⟨us, hu, hus, heof⟩ := ih
    refine ⟨ts ++ us, ht.append hu, ?_, heof⟩
    rw [List.flatMap_cons, List.map_append]
    exact hts.append hus

/-- The nodes of a program are found in order among the tokens before the end of input. -/
theorem Program.positions_sublist {ts : List Token} {p : Program} (h : ofTokens ts = .ok p)
    (hne : ts ≠ []) :
    p.positions <+ (ts.takeWhile (·.kind ≠ .eof)).map Token.position := by
  obtain ⟨c₁, c₂, hds, hss, -⟩ := derives_program h
  obtain ⟨us, hu, hus⟩ := hds.inOrder
  obtain ⟨vs, hv, hvs, heof⟩ := hss.inOrder
  obtain ⟨t, rest, rfl⟩ := List.exists_cons_of_ne_nil hne
  have htokens : us ++ vs = (t :: rest).takeWhile (·.kind ≠ .eof) :=
    ((hu.append hv).eq_takeWhile heof).1
  rw [← htokens, List.map_append]
  exact hus.append hvs

/-- The places of a program's nodes, its `dbrp` lines before its statements, only go forward in the
source, and at each of them a token stands. So no token is two nodes, and the operand that comes
first is the left one: all of it stands before the operator, and all of the right one behind. -/
theorem Program.positions_increasing {source : String} {p : Program} (h : parse source = .ok p) :
    (p.positions.map Position.offset).Pairwise (· < ·) ∧
      (∀ q ∈ p.positions, ∃ t ∈ tokenize source, t.kind ≠ .eof ∧ t.position = q) ∧
      ∀ o op l r parenthesized, .binary o op l r parenthesized ∈ p.exprs →
        (∀ q ∈ l.positions, q.offset < o.position.offset) ∧
          ∀ q ∈ r.positions, o.position.offset < q.offset := by
  have hsub := positions_sublist h (Lexer.start source).tokens_ne_nil
  have hpairs : p.positions.Pairwise (·.offset < ·.offset) := by
    refine List.Pairwise.sublist hsub (List.pairwise_map.2 ?_)
    exact (Lexer.start source).offsets_tokens.2.sublist (List.takeWhile_sublist _)
  refine ⟨List.pairwise_map.2 hpairs, fun q hq => ?_, fun o op l r paren hmem => ?_⟩
  · obtain ⟨t, ht, rfl⟩ := List.mem_map.1 (hsub.subset hq)
    have hkind : t.kind ≠ .eof := by simpa using List.mem_takeWhile_imp ht
    exact ⟨t, (List.takeWhile_sublist _).subset ht, hkind, rfl⟩
  · have hnode := hpairs.sublist (positions_exprs hmem)
    rw [Expr.positions, List.pairwise_append, List.pairwise_cons] at hnode
    obtain ⟨-, ⟨hright, -⟩, hleft⟩ := hnode
    exact ⟨fun q hq => hleft q hq _ List.mem_cons_self, hright⟩

end Trees

section Sample

attribute [local instance] Pattern.engine

/-- Parentheses on the right and a chain with an argument that is a sum. -/
theorem Program.positions_increasing_chain :
    ∃ p, parse "dbrp \"a\".\"b\" var x = 1 - (y * -2) stream|f(1 + 2, [3]).g()" = .ok p ∧
      p.positions.map Position.offset =
        [0, 13, 17, 21, 23, 26, 28, 30, 31, 34, 40, 43, 45, 47, 50, 51, 54] ∧
      (p.positions.map Position.offset).Pairwise (· < ·) := by
  have h : (match parse "dbrp \"a\".\"b\" var x = 1 - (y * -2) stream|f(1 + 2, [3]).g()" with
    | .ok p => decide (p.positions.map Position.offset =
        [0, 13, 17, 21, 23, 26, 28, 30, 31, 34, 40, 43, 45, 47, 50, 51, 54])
    | .error _ => false) = true := by decide +kernel
  split at h
  · next p hp => exact ⟨p, hp, of_decide_eq_true h, (positions_increasing hp).1⟩
  · cases h

end Sample

end Tickscript
