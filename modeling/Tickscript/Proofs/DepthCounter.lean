import Tickscript.Pattern.Limits
import Tickscript.Proofs.Derivation

/-!
# A parser that counts its depth

The readers of the library pass a budget down, so they have nothing to take back. A parser that is
called again and again keeps a counter instead: `descend` raises it for every operand and for every
operator that is folded, and whoever saw it raised restores it, whether the call went well or not
(`restoring`). One missed path would make later, unrelated expressions fail for being nested too
deep.

This module defines that parser over the state `Parser` and shows that it does what the readers do.
Only what nests is written anew, `operand` and `climb`. The grammar between two levels of nesting,
from `Expr.primary` to `Program.readerOver`, is defined once for all monads that readers lift to,
and is taken from there.

Two relations carry the proof, both kept by the ways parsers are put together: `Follows d m r` says
that from depth `d` the parser `m` gives what the reader `r` gives and comes back to depth `d`, and
`Ends d m r` says the same without the depth at the end. A loop over operators only `Ends`: it
leaves the counter raised by one for every fold. `follows_restoring` turns the second into the
first.

The field `peak` has no effect. It keeps the greatest depth there has been, so a bound on it is a
bound at every moment, inside of calls too. In the end stands `Parser.after_forgets`: whatever was
called before, a parser answers as a new one does on the tokens that are left.
-/

namespace Tickscript

/-- A parser between two steps: where it stands, how deep it is nested, and the deepest it has ever
been. -/
structure Parser where
  cursor : Cursor
  depth : Nat
  peak : Nat

namespace Parser

/-- A new parser for a list of tokens. -/
def new (ts : List Token) : Parser := ⟨.ofList ts, 0, 0⟩

/-- The parser at another depth. Nothing else changes the counter. -/
def setDepth (s : Parser) (d : Nat) : Parser := { s with depth := d, peak := max s.peak d }

end Parser

/-- A computation of a parser. It gives a value or an error, and a state after either; it gives
nothing if it runs out of frames. -/
abbrev Counted := ExceptT SyntaxError (StateT Parser Option)

namespace Counted

variable {α β : Type}

/-- What a reader gave, as the result of a parser. -/
def resultAt (depth peak : Nat) :
    EStateM.Result SyntaxError Cursor α → Except SyntaxError α × Parser
  | .ok a c => (.ok a, ⟨c, depth, peak⟩)
  | .error e c => (.error e, ⟨c, depth, peak⟩)

/-- A reader that nests nothing. -/
def lift (r : Reader α) : Counted α := fun s => some (resultAt s.depth s.peak (r s.cursor))

/-- No frame is left. -/
def exhausted : Counted α := fun _ => none

/-- One level deeper, unless the nesting is at its limit. -/
def descend : Counted Unit := fun s =>
  if maxNesting ≤ s.depth then lift (Reader.tooDeep maxNesting) s
  else some (.ok (), s.setDepth (s.depth + 1))

/-- Back to the depth from before, after a failure too. -/
def restoring (m : Counted α) : Counted α := fun s => do
  let (result, s') ← m s
  some (result, s'.setDepth s.depth)

/-- Readers that nest nothing run in the parser as they are, so the grammar between operands, and
that of statements and programs, is the one of the readers. -/
instance : MonadLift Reader Counted := ⟨lift⟩

/-! ## The parser -/

section Nesting

variable [Regex.Engine]

mutual

/-- An operand with the unary operators in front of it. -/
def operand : Nat → Counted Expr
  | 0 => exhausted
  | frames + 1 => restoring do
    descend
    match UnaryOp.ofKind? (← Reader.peek) with
    | some op =>
      let t ← Reader.take
      return .unary (.ofToken t) op (← operand frames)
    | none => Expr.primary (restoring do climb frames 1 (← operand frames))

/-- Folds the operators that follow `left` and bind at least as tightly as `min`. -/
def climb (frames min : Nat) (left : Expr) : Counted Expr :=
  match frames with
  | 0 => exhausted
  | frames + 1 => do
    match BinaryOp.ofKind? (← Reader.peek) with
    | none => return left
    | some op =>
      if op.precedence < min then return left
      else
        descend
        let t ← Reader.take
        let (leading, left) := left.takeLeadingComment
        let right ← restoring do climb frames (op.precedence + 1) (← operand frames)
        climb frames min (.binary (Expr.foldedOrigin leading t) op left right false)

end

-- a frame is one level of the recursion or one round of the loop over operators
variable (frames : Nat)

/-- An operand and the operators after it that bind at least as tightly as `min`. -/
def operation (min : Nat) : Counted Expr := restoring do climb frames min (← operand frames)

/-- An expression. -/
def expression : Counted Expr := operation frames 1

/-- A program. -/
def program : Counted Program := Program.readerOver (expression frames)

end Nesting

/-! ## Parsers that follow readers -/

section Runs

variable {d : Nat} {m : Counted α} {k : α → Counted β} {r : Reader α} {f : α → Reader β}

/-- What follows a success goes on where the success ended. -/
theorem bind_ok {s s' : Parser} {a : α} (h : m s = some (.ok a, s')) : (m >>= k) s = k a s' := by
  show (m s).bind _ = _
  rw [h]
  rfl

/-- A failure ends a parser where it stands. -/
theorem bind_error {s s' : Parser} {e : SyntaxError} (h : m s = some (.error e, s')) :
    (m >>= k) s = some (.error e, s') := by
  show (m s).bind _ = _
  rw [h]
  rfl

/-- From depth `d` on, the parser has frames enough and gives what the reader gives. It ends at a
depth that satisfies `Q`, and no depth on the way is above the limit. -/
def RunsTo (Q : Nat → Prop) (d : Nat) (m : Counted α) (r : Reader α) : Prop :=
  ∀ c, ∀ p ≤ maxNesting, ∃ d', Q d' ∧ ∃ p' ≤ maxNesting, m ⟨c, d, p⟩ = some (resultAt d' p' (r c))

/-- The parser gives what the reader gives and comes back to depth `d`. -/
abbrev Follows (d : Nat) (m : Counted α) (r : Reader α) : Prop := RunsTo (· = d) d m r

/-- The parser gives what the reader gives, at whatever depth. -/
abbrev Ends (d : Nat) (m : Counted α) (r : Reader α) : Prop := RunsTo (fun _ => True) d m r

/-- What comes back to a certain depth ends somewhere. -/
theorem RunsTo.ends {Q : Nat → Prop} (h : RunsTo Q d m r) : Ends d m r := by
  intro c p hp
  obtain ⟨d', -, hrun⟩ := h c p hp
  exact ⟨d', trivial, hrun⟩

theorem follows_lift (r : Reader α) : Follows d (lift r) r :=
  fun _ p hp => ⟨d, rfl, p, hp, rfl⟩

theorem follows_pure (a : α) : Follows d (pure a) (pure a) :=
  fun _ p hp => ⟨d, rfl, p, hp, rfl⟩

/-- What goes on from the depth that the first part came back to. If the first part fails, that is
the depth at the end. -/
theorem Follows.bind_runsTo {Q : Nat → Prop} (h : Follows d m r) (hd : Q d)
    (hk : ∀ a, RunsTo Q d (k a) (f a)) : RunsTo Q d (m >>= k) (r >>= f) := by
  intro c p hp
  obtain ⟨_, rfl, p₁, hp₁, hm⟩ := h c p hp
  cases hr : r c with
  | ok a c₁ =>
    rw [hr] at hm
    obtain ⟨d', hd', p', hp', hrun⟩ := hk a c₁ p₁ hp₁
    exact ⟨d', hd', p', hp', by rw [bind_ok hm, Reader.bind_ok hr, hrun]⟩
  | error e c₁ =>
    rw [hr] at hm
    exact ⟨_, hd, p₁, hp₁, by rw [bind_error hm, Reader.bind_error hr]; rfl⟩

/-- Parsers that follow readers, one after the other, follow the readers one after the other. -/
theorem Follows.bind (h : Follows d m r) (hk : ∀ a, Follows d (k a) (f a)) :
    Follows d (m >>= k) (r >>= f) :=
  h.bind_runsTo rfl hk

/-- If the second part ends anywhere, so do both together. -/
theorem Follows.bind_ends (h : Follows d m r) (hk : ∀ a, Ends d (k a) (f a)) :
    Ends d (m >>= k) (r >>= f) :=
  h.bind_runsTo trivial hk

/-- A choice by a test that both make follows the readers on both sides. -/
theorem RunsTo.ite {Q : Nat → Prop} {m' : Counted α} {r' : Reader α} {p : Prop} [Decidable p]
    (h : RunsTo Q d m r) (h' : RunsTo Q d m' r') :
    RunsTo Q d (if p then m else m') (if p then r else r') := by
  split
  · exact h
  · exact h'

/-- At the limit there is no way down. -/
theorem ends_descend_limit {k : Unit → Counted α} :
    Ends maxNesting (descend >>= k) (Reader.tooDeep maxNesting) := by
  intro c p hp
  refine ⟨maxNesting, trivial, p, hp, bind_error ?_⟩
  rw [descend, if_pos (le_refl _)]
  rfl

/-- Above the limit the next level has one more on the counter. -/
theorem ends_descend {k : Unit → Counted α} {r : Reader α} (hd : d < maxNesting)
    (h : Ends (d + 1) (k ()) r) : Ends d (descend >>= k) r := by
  intro c p hp
  have hrun : descend ⟨c, d, p⟩ = some (.ok (), ⟨c, d + 1, max p (d + 1)⟩) := by
    rw [descend, if_neg (Nat.not_le_of_lt hd)]
    rfl
  rw [bind_ok hrun]
  exact h c _ (Nat.max_le.2 ⟨hp, hd⟩)

/-- What ends anywhere comes back once the depth is restored. -/
theorem follows_restoring (hd : d ≤ maxNesting) (h : Ends d m r) : Follows d (restoring m) r := by
  intro c p hp
  obtain ⟨d', -, p', hp', hrun⟩ := h c p hp
  refine ⟨d, rfl, max p' d, Nat.max_le.2 ⟨hp', hd⟩, ?_⟩
  rw [restoring, hrun]
  cases r c <;> rfl

end Runs

section Parts

variable {d : Nat} {element : Counted Expr} {r : Reader Expr} (h : Follows d element r)

include h

/-- The elements of a list are parsed as they are read, at the depth of the list. -/
theorem follows_elements (close : Kind) (rounds : Nat) :
    Follows d (Expr.elements element close rounds) (Expr.elements r close rounds) := by
  induction rounds with
  | zero => exact follows_lift _
  | succ rounds ih =>
    refine h.bind fun e => (follows_lift _).bind fun k => .ite ?_ ?_
    · exact (follows_lift _).bind fun _ => ih.bind fun es => follows_pure _
    · exact (follows_lift _).bind fun _ => follows_pure _

theorem follows_arguments (close : Kind) :
    Follows d (Expr.arguments element close) (Expr.arguments r close) := by
  refine (follows_lift _).bind fun k => .ite ?_ ?_
  · exact (follows_lift _).bind fun _ => follows_pure _
  · exact (follows_lift _).bind fun rounds => follows_elements h close rounds

theorem follows_callArguments :
    Follows d (Expr.callArguments element) (Expr.callArguments r) :=
  (follows_lift _).bind fun _ => follows_arguments h _

/-- The calls of a chain are parsed as they are read, at the depth of the chain. -/
theorem follows_calls (rounds : Nat) :
    Follows d (Expr.calls element rounds) (Expr.calls r rounds) := by
  induction rounds with
  | zero => exact follows_pure _
  | succ rounds ih =>
    refine (follows_lift _).bind fun k => ?_
    cases CallKind.ofKind? k with
    | none => exact follows_pure _
    | some kind =>
      exact (follows_lift _).bind fun mark => (follows_lift _).bind fun name =>
        (follows_callArguments h).bind fun args => ih.bind fun cs => follows_pure _

theorem follows_chainFrom (source : Token) (keyword : Bool) :
    Follows d (Expr.chainFrom element source keyword) (Expr.chainFrom r source keyword) :=
  (follows_lift _).bind fun rounds => (follows_calls h rounds).bind fun _ =>
    .ite (follows_pure _) (follows_pure _)

/-- Operands are parsed as they are read, if the expressions nested in them are. -/
theorem follows_primary [Regex.Engine] : Follows d (Expr.primary element) (Expr.primary r) := by
  refine (follows_lift _).bind fun k => ?_
  cases k with
  | number | duration | string | reference | regex =>
    exact (follows_lift _).bind fun t => (follows_lift _).bind fun v => follows_pure _
  | boolean | star => exact (follows_lift _).bind fun t => follows_pure _
  | lBracket =>
    exact (follows_lift _).bind fun t => (follows_arguments h _).bind fun es => follows_pure _
  | lambda =>
    exact (follows_lift _).bind fun t => (follows_lift _).bind fun _ =>
      h.bind fun e => follows_pure _
  | lParen =>
    exact (follows_lift _).bind fun t => h.bind fun e =>
      (follows_lift _).bind fun _ => follows_pure _
  | identifier =>
    refine (follows_lift _).bind fun t => (follows_lift _).bind fun k' => .ite ?_ ?_
    · exact (follows_callArguments h).bind fun args => follows_pure _
    · exact follows_chainFrom h t false
  | stream | batch => exact (follows_lift _).bind fun t => follows_chainFrom h t true
  | _ => exact follows_lift _

theorem follows_binding : Follows d (Statement.binding element) (Statement.binding r) := by
  refine (follows_lift _).bind fun k => .ite ?_ ?_
  · exact (follows_lift _).bind fun _ => h.bind fun e => follows_pure _
  · refine (follows_lift _).bind fun t => ?_
    cases Statement.typeName? t with
    | none => exact follows_lift _
    | some type => exact (follows_lift _).bind fun _ => follows_pure _

/-- Statements are parsed as they are read, at the depth they start from. -/
theorem follows_statement : Follows d (Statement.readerOver element) (Statement.readerOver r) := by
  refine (follows_lift _).bind fun k => .ite ?_ ?_
  · exact (follows_lift _).bind fun t => (follows_lift _).bind fun name =>
      (follows_binding h).bind fun b => follows_pure _
  · exact h.bind fun e => follows_pure _

theorem follows_statements (rounds : Nat) :
    Follows d (Statement.many element rounds) (Statement.many r rounds) := by
  induction rounds with
  | zero => exact follows_pure _
  | succ rounds ih =>
    refine (follows_lift _).bind fun k => .ite (follows_pure _) ?_
    exact (follows_statement h).bind fun s => ih.bind fun ss => follows_pure _

/-- Programs are parsed as they are read, if expressions are. -/
theorem follows_readerOver : Follows d (Program.readerOver element) (Program.readerOver r) :=
  (follows_lift _).bind fun _ => (follows_lift _).bind fun _ => (follows_lift _).bind fun rounds =>
    (follows_statements h rounds).bind fun _ => (follows_lift _).bind fun _ => follows_pure _

end Parts

/-! ## Depth and budget -/

variable [Regex.Engine]

/-- Depth and budget add up to the limit at every level, so the counter is at its limit where the
budget is used up. -/
theorem follows_operand_climb {b : Nat} : ∀ {frames d : Nat}, b < frames → d + b = maxNesting →
    Follows d (operand frames) (Expr.operand b) ∧
      ∀ min l, Ends d (climb frames min l) (Expr.climb b min l) := by
  induction b with
  | zero =>
    -- no budget: the counter is at its limit, and `descend` fails as the reader does
    intro frames d hframes hd
    obtain ⟨n, rfl⟩ := Nat.exists_eq_add_one.2 hframes
    obtain rfl : d = maxNesting := hd
    constructor
    · rw [operand, Expr.operand]
      exact follows_restoring le_rfl ends_descend_limit
    · intro min l
      rw [climb, Expr.climb.eq_def]
      refine (follows_lift _).bind_ends fun k => ?_
      cases BinaryOp.ofKind? k with
      | none => exact (follows_pure _).ends
      | some op => exact .ite (follows_pure _).ends ends_descend_limit
  | succ b ih =>
    intro frames d hframes hd
    obtain ⟨n, rfl⟩ := Nat.exists_eq_add_one.2 (Nat.zero_lt_of_lt hframes)
    obtain ⟨hoperand, hclimb⟩ := @ih n (d + 1) (by omega) (by omega)
    have hdown : d < maxNesting := by omega
    -- whatever the loop over the operators leaves on the counter is taken back behind it
    have hoperation : ∀ min, Follows (d + 1) (operation n min) (Expr.operation b min) :=
      fun min => follows_restoring hdown (hoperand.bind_ends fun l => hclimb min l)
    constructor
    · rw [operand, Expr.operand]
      refine follows_restoring hdown.le (ends_descend hdown ?_)
      refine ((follows_lift _).bind fun k => ?_).ends
      cases UnaryOp.ofKind? k with
      | none => exact follows_primary (hoperation 1)
      | some op =>
        exact (follows_lift _).bind fun t => hoperand.bind fun e => follows_pure _
    · intro min l
      rw [climb, Expr.climb.eq_def]
      refine (follows_lift _).bind_ends fun k => ?_
      cases BinaryOp.ofKind? k with
      | none => exact (follows_pure _).ends
      | some op =>
        refine .ite (follows_pure _).ends (ends_descend hdown ?_)
        refine (follows_lift _).bind_ends fun t => ?_
        rcases l.takeLeadingComment with ⟨leading, left⟩
        -- the reader takes the right operand and its operators in one row with what follows
        have hright := (hoperation (op.precedence + 1)).bind_ends fun right =>
          hclimb min (.binary (Expr.foldedOrigin leading t) op left right false)
        rwa [Expr.operation, bind_assoc] at hright

section Frames

variable {frames : Nat} (hframes : maxNesting < frames)

include hframes

/-- At depth `d` the parser does what the reader does on the rest of the budget. -/
theorem follows_operation {d : Nat} (hd : d ≤ maxNesting) (min : Nat) :
    Follows d (operation frames min) (Expr.operation (maxNesting - d) min) := by
  obtain ⟨hoperand, hclimb⟩ :=
    @follows_operand_climb _ (maxNesting - d) frames d (by omega) (by omega)
  exact follows_restoring hd (hoperand.bind_ends fun l => hclimb min l)

/-- With frames enough, an expression is parsed as it is read, from depth zero back to depth
zero. -/
theorem follows_expression : Follows 0 (expression frames) Expr.reader :=
  follows_operation hframes (Nat.zero_le _) 1

/-- With frames enough, a program is parsed as it is read, from depth zero back to depth zero. -/
theorem follows_program : Follows 0 (program frames) Program.reader :=
  follows_readerOver (follows_expression hframes)

end Frames

end Counted

/-! ## Calls on one parser -/

/-- A call of a parser from outside: for an expression, or for a program. -/
inductive Query where
  | expression | program
deriving Repr, DecidableEq

namespace Query

variable [Regex.Engine]

/-- The call on a parser. -/
def call (frames : Nat) : Query → Counted (Expr ⊕ Program)
  | expression => do return .inl (← Counted.expression frames)
  | program => do return .inr (← Counted.program frames)

/-- The reader of what is asked for. -/
def reader : Query → Reader (Expr ⊕ Program)
  | expression => do return .inl (← Expr.reader)
  | program => do return .inr (← Program.reader)

/-- Each call of a parser does what the reader of that query does. -/
theorem follows_call {frames : Nat} (hframes : maxNesting < frames) (r : Query) :
    Counted.Follows 0 (r.call frames) r.reader := by
  cases r with
  | expression => exact (Counted.follows_expression hframes).bind fun e => Counted.follows_pure _
  | program => exact (Counted.follows_program hframes).bind fun p => Counted.follows_pure _

end Query

namespace Parser

/-- Between two calls: nothing is nested, and nothing was ever nested deeper than the limit. -/
structure Idle (s : Parser) : Prop where
  depth : s.depth = 0
  peak : s.peak ≤ maxNesting

/-- A new parser is idle. -/
theorem idle_new (ts : List Token) : (new ts).Idle := ⟨rfl, Nat.zero_le _⟩

/-- An answer and the place after it, as a reader gives them. -/
def runOf {α : Type} : Except SyntaxError α → Cursor → EStateM.Result SyntaxError Cursor α
  | .ok a, c => .ok a c
  | .error e, c => .error e c

theorem runOf_injective {α : Type} {x y : Except SyntaxError α} {c d : Cursor}
    (h : runOf x c = runOf y d) : x = y ∧ c = d := by
  cases x <;> cases y <;> simp_all [runOf]

section Calls

variable [Regex.Engine]

/-- The parser after some calls, whatever they answered. -/
def after (frames : Nat) : List Query → Parser → Option Parser
  | [], s => some s
  | r :: rs, s => do
    let (_, s') ← r.call frames s
    after frames rs s'

/-- A call answers as it does on a new parser for the current token and the tokens after it, and as
the reader does. The parser is idle again afterwards. -/
def AnswersAfresh (frames : Nat) (s : Parser) (r : Query) : Prop :=
  ∃ answer s', r.call frames s = some (answer, s') ∧ s'.Idle ∧
    (∃ s'', r.call frames (new (s.cursor.current :: s.cursor.rest)) = some (answer, s'') ∧
      s''.cursor = s'.cursor) ∧
    r.reader s.cursor = runOf answer s'.cursor

/-- One call on an idle parser gives what the reader gives, and an idle parser. -/
theorem Idle.call {frames : Nat} (hframes : maxNesting < frames) {s : Parser} (h : s.Idle)
    (r : Query) :
    ∃ answer s', r.call frames s = some (answer, s') ∧ s'.Idle ∧
      r.reader s.cursor = runOf answer s'.cursor := by
  obtain ⟨c, d, p⟩ := s
  obtain ⟨rfl, hp⟩ := h
  obtain ⟨_, rfl, p', hp', hrun⟩ := Query.follows_call hframes r c p hp
  rw [hrun]
  cases r.reader c with
  | ok a c' => exact ⟨.ok a, ⟨c', 0, p'⟩, rfl, ⟨rfl, hp'⟩, rfl⟩
  | error e c' => exact ⟨.error e, ⟨c', 0, p'⟩, rfl, ⟨rfl, hp'⟩, rfl⟩

/-- An idle parser keeps no memory: the new one and this one both follow the reader. -/
theorem Idle.answersAfresh {frames : Nat} (hframes : maxNesting < frames) {s : Parser}
    (h : s.Idle) (r : Query) : s.AnswersAfresh frames r := by
  obtain ⟨answer, s', hcall, hidle, hreader⟩ := h.call hframes r
  obtain ⟨answer', s'', hcall', -, hreader'⟩ :=
    (idle_new (s.cursor.current :: s.cursor.rest)).call hframes r
  have hsame : runOf answer' s''.cursor = runOf answer s'.cursor := hreader'.symm.trans hreader
  obtain ⟨rfl, hcursor⟩ := runOf_injective hsame
  exact ⟨answer', s', hcall, hidle, ⟨s'', hcall', hcursor⟩, hreader⟩

/-- Calls that went well and calls that failed leave an idle parser. -/
theorem Idle.after {frames : Nat} (hframes : maxNesting < frames) {s : Parser} (h : s.Idle)
    (rs : List Query) : ∃ s', s.after frames rs = some s' ∧ s'.Idle := by
  induction rs generalizing s with
  | nil => exact ⟨s, rfl, h⟩
  | cons r rs ih =>
    obtain ⟨answer, s₁, hcall, hidle, -⟩ := h.call hframes r
    rw [Parser.after, hcall]
    exact ih hidle

/-- A parser has no memory of past calls: after any calls on a list of tokens it is idle, and the
next call answers as on a new parser for the tokens that are left. -/
theorem after_forgets {frames : Nat} (hframes : maxNesting < frames) (ts : List Token)
    (before : List Query) (next : Query) :
    ∃ s, (new ts).after frames before = some s ∧ s.Idle ∧ s.AnswersAfresh frames next := by
  obtain ⟨s, hafter, hidle⟩ := (idle_new ts).after hframes before
  exact ⟨s, hafter, hidle, hidle.answersAfresh hframes next⟩

end Calls

section Sample

attribute [local instance] Pattern.engine

/-- Of 130 negations the first call takes as many as the limit allows, which leaves two of them, and
fails. The second call goes on from there as a new parser does. -/
theorem after_forgets_negations :
    let ts := List.replicate 130 ⟨.not, "!", .start, none⟩ ++ [⟨.identifier, "x", .start, none⟩]
    Option.map (fun x => (x.1.map fun _ => (), x.2.cursor.rest.length))
        (Query.expression.call 129 (new ts)) =
      some (.error ⟨.start, .tooDeep 128⟩, 2) ∧
    ∃ s, (new ts).after 129 [.expression] = some s ∧ s.Idle ∧
      s.AnswersAfresh 129 .expression := by
  intro ts
  exact ⟨by decide +kernel, after_forgets (by decide) ts [.expression] .expression⟩

end Sample

end Parser

end Tickscript
