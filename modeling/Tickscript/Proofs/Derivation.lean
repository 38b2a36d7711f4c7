import Tickscript.Program.Reader
import Tickscript.Proofs.Reader

/-!
# Derivations

What a successful run of the expression reader has done, step by step: `Derives g c c'` says that
the reader for the goal `g` went from the cursor `c` to the cursor `c'` and gave the result that
`g` names. Each rule keeps everything the reader looked at, the budget and the token after the
last one taken included, so a property of all trees that are read is an induction over the rules
and never has to open a reader.

`derives_expression`, `derives_statements` and `derives_dbrps` are the way in: a successful run is
a derivation. The bounds on the rounds of the loops disappear on the way, because every round
takes a token.
-/

namespace Tickscript

open Cursor (Took)

/-- The parenthesised expression: it takes the comment of its parenthesis if it has none, and
shows its parentheses if it can. -/
def Expr.inParens (comment : Option Comment) (e : Expr) : Expr :=
  (if e.comment.isNone then e.withComment comment else e).parenthesize

/-- The left operand and an operator folded into one tree with the right operand. -/
def Expr.fold (left : Expr) (operator : Token) (op : BinaryOp) (right : Expr) : Expr :=
  .binary (Expr.foldedOrigin left.takeLeadingComment.1 operator) op left.takeLeadingComment.2
    right false

namespace Expr

/-! ## Comments on the move

All that the reader does to a tree it has built is to move comments and to mark parentheses. What
looks at neither is the same of the tree before and after. -/

section Moves

variable {β : Type} {f : Expr → β} (hwith : ∀ c e, f (withComment c e) = f e)

include hwith

/-- A comment taken off the front is not seen by what looks at no comment. -/
theorem apply_takeLeadingComment
    (hleft : ∀ o op l l' r p, f l' = f l → f (binary o op l' r p) = f (binary o op l r p))
    (e : Expr) : f e.takeLeadingComment.2 = f e := by
  induction e using takeLeadingComment.induct with
  | case1 o op l r p c hc =>
    rw [takeLeadingComment, hc]
    exact hwith none (binary o op l r p)
  | case2 o op l r p hc _ _ _ ih =>
    -- without a comment of its own the node stays, and only its left operand changes
    rw [takeLeadingComment, hc]
    exact hleft o op l _ r p ih
  | case3 e hne =>
    rw [takeLeadingComment]
    · exact hwith none e
    · exact hne

/-- Parentheses are not seen by what looks at no comment and at no mark. -/
theorem apply_inParens (hparen : ∀ e, f (parenthesize e) = f e) (c : Option Comment) (e : Expr) :
    f (e.inParens c) = f e := by
  rw [inParens, hparen]
  split
  · exact hwith c e
  · rfl

end Moves

/-! ## The reader, one token kind at a time -/

section Equations

variable {element : Reader Expr} {c : Cursor}

/-- Where no call is introduced, a chain has no more calls. -/
theorem calls_none {rounds : Nat} (h : CallKind.ofKind? c.current.kind = none) :
    calls element (rounds + 1) c = .ok [] c := by
  rw [calls, Reader.liftM_self, Reader.peek_bind, h]
  rfl

/-- A call is its mark, its name and its arguments, and then come the other calls. -/
theorem calls_some {rounds : Nat} {kind : CallKind}
    (h : CallKind.ofKind? c.current.kind = some kind) :
    calls element (rounds + 1) c =
      (do
        let name ← Reader.expect .identifier
        let args ← callArguments element
        let cs ← calls element rounds
        return .mk (.ofToken c.current) kind name.text args :: cs : Reader (List Call))
        c.advance := by
  rw [calls, Reader.liftM_self, Reader.peek_bind, h]
  rfl

variable [Regex.Engine]

/-- A number is read off its token. -/
theorem primary_number (h : c.current.kind = .number) :
    primary element c =
      (do
        let v ← Reader.literal c.current.position (Number.read c.current.text)
        return .number (.ofToken c.current) v : Reader Expr) c.advance := by
  rw [primary, Reader.liftM_self, Reader.peek_bind, h]
  rfl

theorem primary_duration (h : c.current.kind = .duration) :
    primary element c =
      (do
        let v ← Reader.literal c.current.position (Duration.read c.current.text)
        return .duration (.ofToken c.current) v : Reader Expr) c.advance := by
  rw [primary, Reader.liftM_self, Reader.peek_bind, h]
  rfl

theorem primary_reference (h : c.current.kind = .reference) :
    primary element c =
      (do
        let v ← Reader.literal c.current.position (Quote.readReference c.current.text)
        return .reference (.ofToken c.current) v : Reader Expr) c.advance := by
  rw [primary, Reader.liftM_self, Reader.peek_bind, h]
  rfl

theorem primary_regex (h : c.current.kind = .regex) :
    primary element c =
      (do
        let v ← Reader.literal c.current.position (Regex.read c.current.text)
        return .regex (.ofToken c.current) v : Reader Expr) c.advance := by
  rw [primary, Reader.liftM_self, Reader.peek_bind, h]
  rfl

/-- A string is read off its token, whose text also tells whether it is verbatim. -/
theorem primary_string (h : c.current.kind = .string) :
    primary element c =
      (do
        let v ← Reader.literal c.current.position (Quote.readString c.current.text)
        return .string (.ofToken c.current) v (Quote.triple.isPrefixOf c.current.text.toList) :
          Reader Expr) c.advance := by
  rw [primary, Reader.liftM_self, Reader.peek_bind, h]
  rfl

theorem primary_boolean (h : c.current.kind = .boolean) :
    primary element c = .ok (.bool (.ofToken c.current) (c.current.text == "TRUE")) c.advance := by
  rw [primary, Reader.liftM_self, Reader.peek_bind, h]
  rfl

theorem primary_star (h : c.current.kind = .star) :
    primary element c = .ok (.star (.ofToken c.current)) c.advance := by
  rw [primary, Reader.liftM_self, Reader.peek_bind, h]
  rfl

/-- A list is what stands between its brackets. -/
theorem primary_lBracket (h : c.current.kind = .lBracket) :
    primary element c =
      (do
        let es ← arguments element .rBracket
        return .list (.ofToken c.current) es : Reader Expr) c.advance := by
  rw [primary, Reader.liftM_self, Reader.peek_bind, h]
  rfl

/-- A lambda is what stands behind its colon. -/
theorem primary_lambda (h : c.current.kind = .lambda) :
    primary element c =
      (do
        let _ ← Reader.expect .colon
        let e ← element
        return .lambda (.ofToken c.current) e : Reader Expr) c.advance := by
  rw [primary, Reader.liftM_self, Reader.peek_bind, h]
  rfl

/-- Parentheses leave behind the expression in them, marked if it is a binary one. -/
theorem primary_lParen (h : c.current.kind = .lParen) :
    primary element c =
      (do
        let e ← element
        let _ ← Reader.expect .rParen
        return e.inParens c.current.comment : Reader Expr) c.advance := by
  rw [primary, Reader.liftM_self, Reader.peek_bind, h]
  rfl

/-- A name with a parenthesis right behind it is a call of a function. -/
theorem primary_call (h : c.current.kind = .identifier) (hp : c.advance.current.kind = .lParen) :
    primary element c =
      (do
        let args ← arguments element .rParen
        return .function (.mk (.ofToken c.current) .global c.current.text args) : Reader Expr)
        c.advance.advance := by
  rw [primary, Reader.liftM_self, Reader.peek_bind, h]
  show (if c.advance.current.kind = .lParen then _ else _ : Reader Expr) c.advance = _
  rw [if_pos hp, callArguments, bind_assoc, Reader.liftM_self, Reader.expect_bind hp]

/-- Any other name is the source of a chain, which may have no calls. -/
theorem primary_identifier (h : c.current.kind = .identifier)
    (hp : c.advance.current.kind ≠ .lParen) :
    primary element c = chainFrom element c.current false c.advance := by
  rw [primary, Reader.liftM_self, Reader.peek_bind, h]
  show (if c.advance.current.kind = .lParen then _ else _ : Reader Expr) c.advance = _
  rw [if_neg hp]

/-- So is a keyword, which is a chain even without calls. -/
theorem primary_keyword (h : c.current.kind = .stream ∨ c.current.kind = .batch) :
    primary element c = chainFrom element c.current true c.advance := by
  rcases h with h | h
  all_goals
    rw [primary, Reader.liftM_self, Reader.peek_bind, h]
    rfl

/-- The kinds of the tokens that an operand without operators starts with. -/
def startsPrimary : Kind → Bool
  | .number | .duration | .string | .reference | .regex | .boolean | .star | .lBracket | .lambda
  | .lParen | .identifier | .stream | .batch => true
  | _ => false

/-- A token that starts no operand is reported as unexpected. -/
theorem primary_fail (h : startsPrimary c.current.kind = false) :
    primary element c = .error (c.unexpected "expression") c := by
  rw [primary, Reader.liftM_self, Reader.peek_bind]
  cases hk : c.current.kind <;> first | rfl | simp [hk, startsPrimary] at h

end Equations

section

variable [Regex.Engine]

/-- Without budget no operand is read. -/
theorem operand_zero {c : Cursor} :
    operand 0 c = .error ⟨c.current.position, .tooDeep maxNesting⟩ c := by
  rw [operand]
  rfl

/-- A unary operator takes one level of the budget and the operand behind it. -/
theorem operand_unary {c : Cursor} {b : Nat} {op : UnaryOp}
    (h : UnaryOp.ofKind? c.current.kind = some op) :
    operand (b + 1) c =
      (do
        let e ← operand b
        return .unary (.ofToken c.current) op e : Reader Expr) c.advance := by
  rw [operand, Reader.peek_bind, h]
  rfl

/-- Any other operand takes one level of the budget. -/
theorem operand_primary {c : Cursor} {b : Nat} (h : UnaryOp.ofKind? c.current.kind = none) :
    operand (b + 1) c = primary (operation b 1) c := by
  rw [operand, Reader.peek_bind, h]
  rfl

/-- Climbing stops at a token that is no operator, or one that binds less tightly than is asked
for. -/
theorem climb_stop {c : Cursor} {b min : Nat} {left : Expr}
    (h : ∀ op, BinaryOp.ofKind? c.current.kind = some op → op.precedence < min) :
    climb b min left c = .ok left c := by
  rw [climb.eq_def, Reader.peek_bind]
  cases hop : BinaryOp.ofKind? c.current.kind with
  | none => rfl
  | some op =>
    show (if op.precedence < min then _ else _ : Reader Expr) c = _
    rw [if_pos (h op hop)]
    rfl

/-- Without budget no operator is folded. -/
theorem climb_zero {c : Cursor} {min : Nat} {left : Expr} {op : BinaryOp}
    (h : BinaryOp.ofKind? c.current.kind = some op) (hmin : min ≤ op.precedence) :
    climb 0 min left c = .error ⟨c.current.position, .tooDeep maxNesting⟩ c := by
  rw [climb.eq_def, Reader.peek_bind, h]
  show (if op.precedence < min then _ else _ : Reader Expr) c = _
  rw [if_neg (by omega)]
  rfl

/-- An operator that binds tightly enough is folded with the operand to its right, and climbing goes
on from there. -/
theorem climb_fold {c : Cursor} {b min : Nat} {left : Expr} {op : BinaryOp}
    (h : BinaryOp.ofKind? c.current.kind = some op) (hmin : min ≤ op.precedence) :
    climb (b + 1) min left c =
      (do
        let right ← operation b (op.precedence + 1)
        climb b min (left.fold c.current op right) : Reader Expr) c.advance := by
  rw [climb.eq_def, Reader.peek_bind, h]
  show (if op.precedence < min then _ else _ : Reader Expr) c = _
  rw [if_neg (by omega), operation, bind_assoc]
  rfl

end

end Expr

/-- A token names a type if its text does and it is a name or the keyword `lambda`. -/
theorem kind_of_typeName? {t : Token} {type : VarType} (h : Statement.typeName? t = some type) :
    (t.kind = .identifier ∨ t.kind = .lambda) ∧ VarType.ofName? t.text = some type := by
  unfold Statement.typeName? at h
  split at h <;> simp_all

theorem binding_of_typeName? {expression : Reader Expr} {c : Cursor} {type : VarType}
    (hk : c.current.kind ≠ .assign) (ht : Statement.typeName? c.current = some type) :
    Statement.binding expression c = .ok (.template type) c.advance := by
  rw [Statement.binding, Reader.liftM_self, Reader.peek_bind, if_neg hk, Reader.liftM_self,
    Reader.current_bind, ht]
  rfl

theorem binding_of_no_typeName? {expression : Reader Expr} {c : Cursor}
    (hk : c.current.kind ≠ .assign) (ht : Statement.typeName? c.current = none) :
    Statement.binding expression c = Reader.fail "'=' or a template type" c := by
  rw [Statement.binding, Reader.liftM_self, Reader.peek_bind, if_neg hk, Reader.liftM_self,
    Reader.current_bind, ht]
  rfl

/-! ## `dbrp` lines -/

/-- A database or retention policy in a token. -/
def DbrpLine.nameIn (t : Token) : Except LiteralError String :=
  if t.kind = .reference then Quote.readReference t.text else Quote.readString t.text

/-- The successful runs of the reader of the `dbrp` lines at the front. -/
inductive DerivesDbrps : List DbrpLine → Cursor → Cursor → Prop where
  | nil {c : Cursor} (hk : c.current.kind ≠ .dbrp) : DerivesDbrps [] c c
  | cons {c c' : Cursor} {db rp : String} {ds : List DbrpLine} (hk : c.current.kind = .dbrp)
      (hdb : c.advance.current.kind = .reference ∨ c.advance.current.kind = .string)
      (hdbv : DbrpLine.nameIn c.advance.current = .ok db)
      (hdot : c.advance.advance.current.kind = .dot)
      (hrp : c.advance.advance.advance.current.kind = .reference ∨
        c.advance.advance.advance.current.kind = .string)
      (hrpv : DbrpLine.nameIn c.advance.advance.advance.current = .ok rp)
      (hds : DerivesDbrps ds c.advance.advance.advance.advance c') :
      DerivesDbrps (⟨db, rp, .ofToken c.current⟩ :: ds) c c'

/-- A database or a retention policy is read off one token, a reference or a string. -/
theorem derives_dbrpName {c c' : Cursor} {v : String} (h : DbrpLine.name c = .ok v c') :
    (c.current.kind = .reference ∨ c.current.kind = .string) ∧
      DbrpLine.nameIn c.current = .ok v ∧ c' = c.advance := by
  rw [DbrpLine.name, Reader.peek_bind] at h
  unfold DbrpLine.nameIn
  cases hk : c.current.kind <;> rw [hk] at h
  case reference =>
    obtain ⟨hv, rfl⟩ := Reader.literal_eq_ok.1 h
    exact ⟨.inl rfl, by simpa using hv, rfl⟩
  case string =>
    obtain ⟨hv, rfl⟩ := Reader.literal_eq_ok.1 h
    exact ⟨.inr rfl, by simpa using hv, rfl⟩
  all_goals cases h

/-- With rounds enough, all `dbrp` lines are read. -/
theorem derives_dbrps {rounds : Nat} {ds : List DbrpLine} : ∀ {c c' : Cursor},
    c.left ≤ rounds → DbrpLine.many rounds c = .ok ds c' → DerivesDbrps ds c c' := by
  induction rounds generalizing ds with
  | zero =>
    intro c c' hle h
    cases h
    exact .nil (by simp [Cursor.current_eq_eof_of_left (Nat.le_zero.1 hle)])
  | succ rounds ih =>
    intro c c' hle h
    rw [DbrpLine.many, Reader.peek_bind] at h
    split at h
    · next hk =>
      obtain ⟨d, c₁, hd, h⟩ := Reader.bind_eq_ok.1 h
      obtain ⟨ds', c₂, hds, h⟩ := Reader.bind_eq_ok.1 h
      cases h
      rw [DbrpLine.reader, Reader.take_bind] at hd
      obtain ⟨db, d₁, hdb, hd⟩ := Reader.bind_eq_ok.1 hd
      obtain ⟨hdbk, hdbv, rfl⟩ := derives_dbrpName hdb
      obtain ⟨t, d₂, ht, hd⟩ := Reader.bind_eq_ok.1 hd
      obtain ⟨hdot, -, rfl⟩ := Reader.expect_eq_ok.1 ht
      obtain ⟨rp, d₃, hrp, hd⟩ := Reader.bind_eq_ok.1 hd
      obtain ⟨hrpk, hrpv, rfl⟩ := derives_dbrpName hrp
      cases hd
      have h₁ := Cursor.left_advance_lt (c := c) (by simp [hk])
      have h₂ := Cursor.left_advance_lt (c := c.advance) (by rcases hdbk with h | h <;> simp [h])
      have h₃ := Cursor.left_advance_lt (c := c.advance.advance) (by simp [hdot])
      have h₄ := Cursor.left_advance_lt (c := c.advance.advance.advance)
        (by rcases hrpk with h | h <;> simp [h])
      exact .cons hk hdbk hdbv hdot hrpk hrpv (ih (by omega) hds)
    · next hk =>
      cases h
      exact .nil hk

/-! ## Expressions -/

/-- What a part of the expression reader is asked for, and the result it gives. -/
inductive Goal where
  | operand (budget : Nat) (e : Expr)
  | climb (budget min : Nat) (left e : Expr)
  | expression (budget : Nat) (e : Expr)
  | arguments (budget : Nat) (close : Kind) (es : List Expr)
  | elements (budget : Nat) (close : Kind) (es : List Expr)
  | calls (budget : Nat) (cs : List Call)

variable [Regex.Engine]

/-- The successful runs of the expression reader. -/
inductive Derives : Goal → Cursor → Cursor → Prop where
  | unary {c c' : Cursor} {b : Nat} {op : UnaryOp} {e : Expr}
      (hop : UnaryOp.ofKind? c.current.kind = some op)
      (he : Derives (.operand b e) c.advance c') :
      Derives (.operand (b + 1) (.unary (.ofToken c.current) op e)) c c'
  | number {c : Cursor} {b : Nat} {v : Number} (hk : c.current.kind = .number)
      (hv : Number.read c.current.text = .ok v) :
      Derives (.operand (b + 1) (.number (.ofToken c.current) v)) c c.advance
  | duration {c : Cursor} {b : Nat} {v : Nat} (hk : c.current.kind = .duration)
      (hv : Duration.read c.current.text = .ok v) :
      Derives (.operand (b + 1) (.duration (.ofToken c.current) v)) c c.advance
  | string {c : Cursor} {b : Nat} {v : String} (hk : c.current.kind = .string)
      (hv : Quote.readString c.current.text = .ok v) :
      Derives (.operand (b + 1) (.string (.ofToken c.current) v
        (Quote.triple.isPrefixOf c.current.text.toList))) c c.advance
  | reference {c : Cursor} {b : Nat} {v : String} (hk : c.current.kind = .reference)
      (hv : Quote.readReference c.current.text = .ok v) :
      Derives (.operand (b + 1) (.reference (.ofToken c.current) v)) c c.advance
  | regex {c : Cursor} {b : Nat} {v : String} (hk : c.current.kind = .regex)
      (hv : Regex.read c.current.text = .ok v) :
      Derives (.operand (b + 1) (.regex (.ofToken c.current) v)) c c.advance
  | boolean {c : Cursor} {b : Nat} (hk : c.current.kind = .boolean) :
      Derives (.operand (b + 1) (.bool (.ofToken c.current) (c.current.text == "TRUE"))) c
        c.advance
  | star {c : Cursor} {b : Nat} (hk : c.current.kind = .star) :
      Derives (.operand (b + 1) (.star (.ofToken c.current))) c c.advance
  | list {c c' : Cursor} {b : Nat} {es : List Expr} (hk : c.current.kind = .lBracket)
      (hes : Derives (.arguments b .rBracket es) c.advance c') :
      Derives (.operand (b + 1) (.list (.ofToken c.current) es)) c c'
  | lambda {c c' : Cursor} {b : Nat} {e : Expr} (hk : c.current.kind = .lambda)
      (hc : c.advance.current.kind = .colon)
      (he : Derives (.expression b e) c.advance.advance c') :
      Derives (.operand (b + 1) (.lambda (.ofToken c.current) e)) c c'
  | paren {c c' : Cursor} {b : Nat} {e : Expr} (hk : c.current.kind = .lParen)
      (he : Derives (.expression b e) c.advance c') (hc : c'.current.kind = .rParen) :
      Derives (.operand (b + 1) (e.inParens c.current.comment)) c c'.advance
  | function {c c' : Cursor} {b : Nat} {es : List Expr} (hk : c.current.kind = .identifier)
      (hp : c.advance.current.kind = .lParen)
      (hes : Derives (.arguments b .rParen es) c.advance.advance c') :
      Derives (.operand (b + 1)
        (.function (.mk (.ofToken c.current) .global c.current.text es))) c c'
  | name {c : Cursor} {b : Nat} (hk : c.current.kind = .identifier)
      (hp : c.advance.current.kind ≠ .lParen)
      (hm : CallKind.ofKind? c.advance.current.kind = none) :
      Derives (.operand (b + 1) (.identifier (.ofToken c.current) c.current.text)) c c.advance
  | chain {c c' : Cursor} {b : Nat} {cs : List Call}
      (hk : c.current.kind = .identifier ∧ c.advance.current.kind ≠ .lParen ∧ cs ≠ [] ∨
        c.current.kind = .stream ∨ c.current.kind = .batch)
      (hcs : Derives (.calls b cs) c.advance c') :
      Derives (.operand (b + 1) (.chain (.ofToken c.current)
        ⟨c.current.text, ⟨c.current.position, none⟩⟩ cs)) c c'
  | stop {c : Cursor} {b min : Nat} {l : Expr}
      (hop : ∀ op, BinaryOp.ofKind? c.current.kind = some op → op.precedence < min) :
      Derives (.climb b min l l) c c
  | fold {c c₁ c₂ c' : Cursor} {b min : Nat} {op : BinaryOp} {l r₀ r e : Expr}
      (hop : BinaryOp.ofKind? c.current.kind = some op) (hmin : min ≤ op.precedence)
      (hr₀ : Derives (.operand b r₀) c.advance c₁)
      (hr : Derives (.climb b (op.precedence + 1) r₀ r) c₁ c₂)
      (he : Derives (.climb b min (l.fold c.current op r) e) c₂ c') :
      Derives (.climb (b + 1) min l e) c c'
  | expression {c c₁ c' : Cursor} {b : Nat} {l e : Expr} (hl : Derives (.operand b l) c c₁)
      (he : Derives (.climb b 1 l e) c₁ c') : Derives (.expression b e) c c'
  | noArguments {c : Cursor} {b : Nat} {close : Kind} (hclose : close = .rParen ∨ close = .rBracket)
      (hk : c.current.kind = close) : Derives (.arguments b close []) c c.advance
  | arguments {c c' : Cursor} {b : Nat} {close : Kind} {es : List Expr}
      (hk : c.current.kind ≠ close) (hes : Derives (.elements b close es) c c') :
      Derives (.arguments b close es) c c'
  | last {c c' : Cursor} {b : Nat} {close : Kind} {e : Expr}
      (hclose : close = .rParen ∨ close = .rBracket) (he : Derives (.expression b e) c c')
      (hc : c'.current.kind = close) : Derives (.elements b close [e]) c c'.advance
  | more {c c₁ c' : Cursor} {b : Nat} {close : Kind} {e : Expr} {es : List Expr}
      (he : Derives (.expression b e) c c₁) (hk : c₁.current.kind = .comma)
      (hes : Derives (.elements b close es) c₁.advance c') :
      Derives (.elements b close (e :: es)) c c'
  | noCalls {c : Cursor} {b : Nat} (hm : CallKind.ofKind? c.current.kind = none) :
      Derives (.calls b []) c c
  | call {c c₁ c' : Cursor} {b : Nat} {kind : CallKind} {es : List Expr} {cs : List Call}
      (hm : CallKind.ofKind? c.current.kind = some kind)
      (hn : c.advance.current.kind = .identifier)
      (hp : c.advance.advance.current.kind = .lParen)
      (hes : Derives (.arguments b .rParen es) c.advance.advance.advance c₁)
      (hcs : Derives (.calls b cs) c₁ c') :
      Derives (.calls b (.mk (.ofToken c.current) kind c.advance.current.text es :: cs)) c c'

/-- The least number of tokens that a run for a goal takes. -/
def Goal.least : Goal → Nat
  | climb .. | calls .. => 0
  | _ => 1

/-- A run moves the cursor forward. -/
theorem Derives.left_le {g : Goal} {c c' : Cursor} (h : Derives g c c') :
    c'.left + g.least ≤ c.left := by
  have hstep : ∀ {d : Cursor} {k : Kind}, d.current.kind = k → k ≠ .eof →
      d.advance.left + 1 ≤ d.left := fun hk hne => Cursor.left_advance_lt (hk ▸ hne)
  induction h with
  | @unary c _ _ op _ hop _ ih =>
    have hne : c.current.kind ≠ .eof := by intro h; simp [h, UnaryOp.ofKind?] at hop
    have := hstep rfl hne
    simp only [Goal.least] at *
    omega
  | number hk | duration hk | string hk | reference hk | regex hk | boolean hk | star hk =>
    exact hstep hk (by simp)
  | list hk _ ih =>
    have := hstep hk (by simp)
    simp only [Goal.least] at *
    omega
  | lambda hk hc _ ih =>
    have := hstep hk (by simp)
    have := hstep hc (by simp)
    simp only [Goal.least] at *
    omega
  | paren hk _ hc ih =>
    have := hstep hk (by simp)
    have := hstep hc (by simp)
    simp only [Goal.least] at *
    omega
  | function hk hp _ ih =>
    have := hstep hk (by simp)
    have := hstep hp (by simp)
    simp only [Goal.least] at *
    omega
  | name hk => exact hstep hk (by simp)
  | @chain c _ _ _ hk _ ih =>
    have hne : c.current.kind ≠ .eof := by rcases hk with h | h | h <;> simp [h]
    have := hstep rfl hne
    simp only [Goal.least] at *
    omega
  | stop => simp [Goal.least]
  | @fold c _ _ _ _ _ op _ _ _ _ hop _ _ _ _ ih₁ ih₂ ih₃ =>
    have hne : c.current.kind ≠ .eof := by intro h; simp [h, BinaryOp.ofKind?] at hop
    have := hstep rfl hne
    simp only [Goal.least] at *
    omega
  | expression _ _ ih₁ ih₂ =>
    simp only [Goal.least] at *
    omega
  | noArguments hclose hk => exact hstep hk (by rcases hclose with h | h <;> simp [h])
  | arguments _ _ ih => exact ih
  | last hclose _ hc ih =>
    have := hstep hc (by rcases hclose with h | h <;> simp [h])
    simp only [Goal.least] at *
    omega
  | more _ hk _ ih₁ ih₂ =>
    have := hstep hk (by simp)
    simp only [Goal.least] at *
    omega
  | noCalls => simp [Goal.least]
  | @call c _ _ _ kind _ _ hm hn hp _ _ ih₁ ih₂ =>
    have hne : c.current.kind ≠ .eof := by intro h; simp [h, CallKind.ofKind?] at hm
    have := hstep rfl hne
    have := hstep hn (by simp)
    have := hstep hp (by simp)
    simp only [Goal.least] at *
    omega

/-- A climb stops only where no operator is left to fold. -/
theorem Derives.climb_stops {b min : Nat} {l e : Expr} {c c' : Cursor}
    (h : Derives (.climb b min l e) c c') :
    ∀ op, BinaryOp.ofKind? c'.current.kind = some op → op.precedence < min := by
  generalize hg : Goal.climb b min l e = g at h
  induction h generalizing b l with
  | stop hop =>
    cases hg
    exact hop
  | fold _ _ _ _ _ _ _ ih =>
    cases hg
    exact ih rfl
  | _ => cases hg

/-! ## Runs are derivations

The parts of the expression reader take the reader for nested expressions as an argument. What is
assumed of it below is that its own runs are derivations. -/

section Parts

variable {element : Reader Expr} {b : Nat}

/-- Elements that were read are those of a derivation, if their expressions are. -/
theorem derives_elements (helem : ∀ {c c' e}, element c = .ok e c' → Derives (.expression b e) c c')
    {close : Kind} (hclose : close = .rParen ∨ close = .rBracket) {rounds : Nat} {es : List Expr} :
    ∀ {c c' : Cursor}, Expr.elements element close rounds c = .ok es c' →
      Derives (.elements b close es) c c' := by
  induction rounds generalizing es with
  | zero => intro c c' h; simp [Expr.elements, Reader.fail] at h
  | succ rounds ih =>
    intro c c' h
    simp only [Expr.elements, Reader.liftM_self] at h
    obtain ⟨e, c₁, he, h⟩ := Reader.bind_eq_ok.1 h
    rw [Reader.peek_bind] at h
    split at h
    · next hk =>
      rw [Reader.take_bind] at h
      obtain ⟨es', c₂, hes, h⟩ := Reader.bind_eq_ok.1 h
      cases h
      exact .more (helem he) hk (ih hes)
    · obtain ⟨t, c₂, ht, h⟩ := Reader.bind_eq_ok.1 h
      obtain ⟨hc, -, rfl⟩ := Reader.expect_eq_ok.1 ht
      cases h
      exact .last hclose (helem he) hc

/-- And so are arguments, with or without anything between their parentheses. -/
theorem derives_arguments
    (helem : ∀ {c c' e}, element c = .ok e c' → Derives (.expression b e) c c')
    {close : Kind} (hclose : close = .rParen ∨ close = .rBracket) {es : List Expr}
    {c c' : Cursor} (h : Expr.arguments element close c = .ok es c') :
    Derives (.arguments b close es) c c' := by
  rw [Expr.arguments, Reader.liftM_self, Reader.peek_bind] at h
  split at h
  · next hk =>
    cases h
    exact .noArguments hclose hk
  · next hk => exact .arguments hk (derives_elements helem hclose h)

/-- And so are the calls of a chain, with rounds enough to read them all. -/
theorem derives_calls (helem : ∀ {c c' e}, element c = .ok e c' → Derives (.expression b e) c c')
    {rounds : Nat} {cs : List Call} : ∀ {c c' : Cursor}, c.left ≤ rounds →
      Expr.calls element rounds c = .ok cs c' → Derives (.calls b cs) c c' := by
  induction rounds generalizing cs with
  | zero =>
    intro c c' hle h
    cases h
    refine .noCalls ?_
    rw [Cursor.current_eq_eof_of_left (Nat.le_zero.1 hle)]
    rfl
  | succ rounds ih =>
    intro c c' hle h
    cases hm : CallKind.ofKind? c.current.kind with
    | none =>
      rw [Expr.calls_none hm] at h
      cases h
      exact .noCalls hm
    | some kind =>
      rw [Expr.calls_some hm] at h
      obtain ⟨name, c₁, hname, h⟩ := Reader.bind_eq_ok.1 h
      obtain ⟨hn, rfl, rfl⟩ := Reader.expect_eq_ok.1 hname
      obtain ⟨es, c₂, hes, h⟩ := Reader.bind_eq_ok.1 h
      obtain ⟨cs', c₃, hcs, h⟩ := Reader.bind_eq_ok.1 h
      cases h
      rw [Expr.callArguments] at hes
      obtain ⟨t, c₃, ht, hes⟩ := Reader.bind_eq_ok.1 hes
      obtain ⟨hp, -, rfl⟩ := Reader.expect_eq_ok.1 ht
      have hargs := derives_arguments helem (.inl rfl) hes
      -- a round takes its mark and more, so the rounds that are left are enough
      have hlt : c.advance.left < c.left :=
        Cursor.left_advance_lt (by intro hk; simp [hk, CallKind.ofKind?] at hm)
      have h₁ := Cursor.left_advance_lt (c := c.advance) (by simp [hn])
      have h₂ := Cursor.left_advance_lt (c := c.advance.advance) (by simp [hp])
      have h₃ := hargs.left_le
      exact .call hm hn hp hargs (ih (by omega) hcs)

/-- And so is a source with its calls. -/
theorem derives_chainFrom (keyword : Bool)
    (helem : ∀ {c c' e}, element c = .ok e c' → Derives (.expression b e) c c')
    {c c' : Cursor} {e : Expr}
    (hk : if keyword then c.current.kind = .stream ∨ c.current.kind = .batch
      else c.current.kind = .identifier ∧ c.advance.current.kind ≠ .lParen)
    (h : Expr.chainFrom element c.current keyword c.advance = .ok e c') :
    Derives (.operand (b + 1) e) c c' := by
  rw [Expr.chainFrom, Reader.liftM_self, Reader.rounds_bind] at h
  obtain ⟨cs, c₁, hcs, h⟩ := Reader.bind_eq_ok.1 h
  have hcalls := derives_calls helem (Cursor.left_le_size _) hcs
  cases keyword with
  | true =>
    simp only [Bool.not_true, Bool.and_false] at h
    cases h
    exact .chain (.inr (by simpa using hk)) hcalls
  | false =>
    simp only [Bool.false_eq_true, if_false] at hk
    cases cs with
    | nil =>
      cases h
      cases hcalls with
      | noCalls hm => exact .name hk.1 hk.2 hm
    | cons call cs =>
      cases h
      exact .chain (.inl ⟨hk.1, hk.2, by simp⟩) hcalls

/-- An operand that was read has a derivation, if the expressions nested in it do. -/
theorem derives_primary (helem : ∀ {c c' e}, element c = .ok e c' → Derives (.expression b e) c c')
    {c c' : Cursor} {e : Expr} (h : Expr.primary element c = .ok e c') :
    Derives (.operand (b + 1) e) c c' := by
  cases hk : c.current.kind
  case number =>
    rw [Expr.primary_number hk] at h
    obtain ⟨v, hv, rfl, rfl⟩ := Reader.literal_bind_pure_eq_ok.1 h
    exact .number hk hv
  case duration =>
    rw [Expr.primary_duration hk] at h
    obtain ⟨v, hv, rfl, rfl⟩ := Reader.literal_bind_pure_eq_ok.1 h
    exact .duration hk hv
  case string =>
    rw [Expr.primary_string hk] at h
    obtain ⟨v, hv, rfl, rfl⟩ := Reader.literal_bind_pure_eq_ok.1 h
    exact .string hk hv
  case reference =>
    rw [Expr.primary_reference hk] at h
    obtain ⟨v, hv, rfl, rfl⟩ := Reader.literal_bind_pure_eq_ok.1 h
    exact .reference hk hv
  case regex =>
    rw [Expr.primary_regex hk] at h
    obtain ⟨v, hv, rfl, rfl⟩ := Reader.literal_bind_pure_eq_ok.1 h
    exact .regex hk hv
  case boolean =>
    rw [Expr.primary_boolean hk] at h
    cases h
    exact .boolean hk
  case star =>
    rw [Expr.primary_star hk] at h
    cases h
    exact .star hk
  case lBracket =>
    rw [Expr.primary_lBracket hk] at h
    obtain ⟨es, c₁, hes, h⟩ := Reader.bind_eq_ok.1 h
    cases h
    exact .list hk (derives_arguments helem (.inr rfl) hes)
  case lambda =>
    rw [Expr.primary_lambda hk] at h
    obtain ⟨t, c₁, ht, h⟩ := Reader.bind_eq_ok.1 h
    obtain ⟨hc, -, rfl⟩ := Reader.expect_eq_ok.1 ht
    obtain ⟨body, c₂, hbody, h⟩ := Reader.bind_eq_ok.1 h
    cases h
    exact .lambda hk hc (helem hbody)
  case lParen =>
    rw [Expr.primary_lParen hk] at h
    obtain ⟨e', c₁, he, h⟩ := Reader.bind_eq_ok.1 h
    obtain ⟨t, c₂, ht, h⟩ := Reader.bind_eq_ok.1 h
    obtain ⟨hc, -, rfl⟩ := Reader.expect_eq_ok.1 ht
    cases h
    exact .paren hk (helem he) hc
  case identifier =>
    by_cases hp : c.advance.current.kind = .lParen
    · rw [Expr.primary_call hk hp] at h
      obtain ⟨es, c₁, hes, h⟩ := Reader.bind_eq_ok.1 h
      cases h
      exact .function hk hp (derives_arguments helem (.inl rfl) hes)
    · rw [Expr.primary_identifier hk hp] at h
      exact derives_chainFrom false helem (by simp [hk, hp]) h
  case stream | batch =>
    rw [Expr.primary_keyword (by simp [hk])] at h
    exact derives_chainFrom true helem (by simp [hk]) h
  -- every other kind starts no operand
  all_goals
    rw [Expr.primary_fail (by rw [hk]; rfl)] at h
    cases h

end Parts

/-- The operand reader and the climb, by recursion on the budget as in their definition. -/
theorem derives_operand_climb (b : Nat) :
    (∀ {c c' : Cursor} {e : Expr}, Expr.operand b c = .ok e c' → Derives (.operand b e) c c') ∧
    (∀ {min : Nat} {c c' : Cursor} {l e : Expr}, Expr.climb b min l c = .ok e c' →
      Derives (.climb b min l e) c c') := by
  induction b with
  | zero =>
    refine ⟨fun h => ?_, fun {min c c' l e} h => ?_⟩
    · rw [Expr.operand_zero] at h
      cases h
    · by_cases hstop : ∀ op, BinaryOp.ofKind? c.current.kind = some op → op.precedence < min
      · rw [Expr.climb_stop hstop] at h
        cases h
        exact .stop hstop
      · obtain ⟨op, hop, hmin⟩ := by simpa using hstop
        rw [Expr.climb_zero hop hmin] at h
        cases h
  | succ b ih =>
    obtain ⟨ihop, ihclimb⟩ := ih
    have hexpr : ∀ {c c' e}, Expr.operation b 1 c = .ok e c' → Derives (.expression b e) c c' := by
      intro c c' e h
      obtain ⟨l, c₁, hl, he⟩ := Reader.bind_eq_ok.1 h
      exact .expression (ihop hl) (ihclimb he)
    refine ⟨fun {c c' e} h => ?_, fun {min c c' l e} h => ?_⟩
    · cases hop : UnaryOp.ofKind? c.current.kind with
      | some op =>
        rw [Expr.operand_unary hop] at h
        obtain ⟨x, c₁, hx, h⟩ := Reader.bind_eq_ok.1 h
        cases h
        exact .unary hop (ihop hx)
      | none =>
        rw [Expr.operand_primary hop] at h
        exact derives_primary hexpr h
    · by_cases hstop : ∀ op, BinaryOp.ofKind? c.current.kind = some op → op.precedence < min
      · rw [Expr.climb_stop hstop] at h
        cases h
        exact .stop hstop
      · obtain ⟨op, hop, hmin⟩ := by simpa using hstop
        rw [Expr.climb_fold hop hmin] at h
        obtain ⟨r, c₂, hr, h⟩ := Reader.bind_eq_ok.1 h
        obtain ⟨r₀, c₁, hr₀, hr⟩ := Reader.bind_eq_ok.1 hr
        -- the rest of the climb runs on the smaller budget too
        exact .fold hop hmin (ihop hr₀) (ihclimb hr) (ihclimb h)

/-- A run of the expression reader is a derivation. -/
theorem derives_expression {c c' : Cursor} {e : Expr} (h : Expr.reader c = .ok e c') :
    Derives (.expression maxNesting e) c c' := by
  obtain ⟨l, c₁, hl, he⟩ := Reader.bind_eq_ok.1 h
  exact .expression ((derives_operand_climb _).1 hl) ((derives_operand_climb _).2 he)

/-! ## Statements and programs -/

/-- The successful runs of the statement reader. -/
inductive DerivesStatement : Statement → Cursor → Cursor → Prop where
  | expr {c c' : Cursor} {e : Expr} (hk : c.current.kind ≠ .var)
      (he : Derives (.expression maxNesting e) c c') : DerivesStatement (.expr e) c c'
  | value {c c' : Cursor} {e : Expr} (hk : c.current.kind = .var)
      (hn : c.advance.current.kind = .identifier)
      (ha : c.advance.advance.current.kind = .assign)
      (he : Derives (.expression maxNesting e) c.advance.advance.advance c') :
      DerivesStatement (.declare (.ofToken c.current)
        ⟨c.advance.current.text, ⟨c.advance.current.position, none⟩⟩ (.value e)) c c'
  | template {c : Cursor} {type : VarType} (hk : c.current.kind = .var)
      (hn : c.advance.current.kind = .identifier)
      (ht : Statement.typeName? c.advance.advance.current = some type) :
      DerivesStatement (.declare (.ofToken c.current)
        ⟨c.advance.current.text, ⟨c.advance.current.position, none⟩⟩ (.template type)) c
        c.advance.advance.advance

/-- The successful runs of the reader of all statements up to the end of input. -/
inductive DerivesStatements : List Statement → Cursor → Cursor → Prop where
  | nil {c : Cursor} (hk : c.current.kind = .eof) : DerivesStatements [] c c
  | cons {c c₁ c' : Cursor} {s : Statement} {ss : List Statement} (hk : c.current.kind ≠ .eof)
      (hs : DerivesStatement s c c₁) (hss : DerivesStatements ss c₁ c') :
      DerivesStatements (s :: ss) c c'

/-- What a declaration binds is an expression behind `=`, or else a type. -/
theorem derives_binding {c c' : Cursor} {bd : Binding}
    (h : Statement.binding Expr.reader c = .ok bd c') :
    (c.current.kind = .assign ∧ ∃ e, bd = .value e ∧
        Derives (.expression maxNesting e) c.advance c') ∨
      ∃ type, bd = .template type ∧ Statement.typeName? c.current = some type ∧
        c' = c.advance := by
  by_cases hk : c.current.kind = .assign
  · rw [Statement.binding, Reader.liftM_self, Reader.peek_bind, if_pos hk, Reader.liftM_self,
      Reader.take_bind] at h
    obtain ⟨e, c₁, he, h⟩ := Reader.bind_eq_ok.1 h
    cases h
    exact .inl ⟨hk, e, rfl, derives_expression he⟩
  · cases ht : Statement.typeName? c.current with
    | none =>
      rw [binding_of_no_typeName? hk ht] at h
      cases h
    | some type =>
      rw [binding_of_typeName? hk ht] at h
      cases h
      exact .inr ⟨type, rfl, rfl, rfl⟩

/-- A statement that was read has a derivation. -/
theorem derives_statement {c c' : Cursor} {s : Statement} (h : Statement.reader c = .ok s c') :
    DerivesStatement s c c' := by
  rw [Statement.reader, Statement.readerOver, Reader.liftM_self, Reader.peek_bind] at h
  split at h
  · next hk =>
    rw [Statement.declaration, Reader.liftM_self, Reader.take_bind] at h
    obtain ⟨t, c₁, ht, h⟩ := Reader.bind_eq_ok.1 h
    obtain ⟨hn, rfl, rfl⟩ := Reader.expect_eq_ok.1 ht
    obtain ⟨bd, c₂, hbd, h⟩ := Reader.bind_eq_ok.1 h
    cases h
    rcases derives_binding hbd with ⟨ha, e, rfl, he⟩ | ⟨type, rfl, ht, rfl⟩
    · exact .value hk hn ha he
    · exact .template hk hn ht
  · next hk =>
    obtain ⟨e, c₁, he, h⟩ := Reader.bind_eq_ok.1 h
    cases h
    exact .expr hk (derives_expression he)

/-- A statement takes a token at least. -/
theorem DerivesStatement.left_lt {c c' : Cursor} {s : Statement} (h : DerivesStatement s c c') :
    c'.left < c.left := by
  cases h with
  | expr _ he => exact he.left_le
  | value hk hn ha he =>
    have h₁ := Cursor.left_advance_lt (c := c) (by simp [hk])
    have h₂ := Cursor.left_advance_lt (c := c.advance) (by simp [hn])
    have h₃ := Cursor.left_advance_lt (c := c.advance.advance) (by simp [ha])
    have h₄ := he.left_le
    omega
  | template hk hn ht =>
    have h₁ := Cursor.left_advance_lt (c := c) (by simp [hk])
    have h₂ := Cursor.left_advance_lt (c := c.advance) (by simp [hn])
    have h₃ := Cursor.left_advance_lt (c := c.advance.advance)
      (by rcases (kind_of_typeName? ht).1 with h | h <;> simp [h])
    omega

/-- With rounds enough, all statements up to the end of input have a derivation. -/
theorem derives_statements {rounds : Nat} {ss : List Statement} : ∀ {c c' : Cursor},
    c.left ≤ rounds → Statement.many Expr.reader rounds c = .ok ss c' →
      DerivesStatements ss c c' := by
  induction rounds generalizing ss with
  | zero =>
    intro c c' hle h
    cases h
    exact .nil (Cursor.current_eq_eof_of_left (Nat.le_zero.1 hle))
  | succ rounds ih =>
    intro c c' hle h
    rw [Statement.many, Reader.liftM_self, Reader.peek_bind] at h
    split at h
    · next hk =>
      cases h
      exact .nil hk
    · next hk =>
      obtain ⟨s, c₁, hs, h⟩ := Reader.bind_eq_ok.1 h
      obtain ⟨ss', c₂, hss, h⟩ := Reader.bind_eq_ok.1 h
      cases h
      have hder := derives_statement hs
      have hlt := hder.left_lt
      exact .cons hk hder (ih (by omega) hss)

/-- A program that is read has been derived: its `dbrp` lines, then its statements, up to the end
of input. -/
theorem derives_program {ts : List Token} {p : Program} (h : Program.ofTokens ts = .ok p) :
    ∃ c₁ c₂, DerivesDbrps p.dbrps (.ofList ts) c₁ ∧ DerivesStatements p.statements c₁ c₂ ∧
      p.trailingComment = c₂.current.comment ∧
      Program.reader (.ofList ts) =
        .ok p { c₂ with current := { c₂.current with comment := none } } := by
  unfold Program.ofTokens at h
  split at h
  · next q c hq =>
    cases h
    have hrun := hq
    rw [Program.reader, Program.readerOver, Reader.liftM_self, Reader.rounds_bind] at hq
    obtain ⟨ds, c₁, hds, hq⟩ := Reader.bind_eq_ok.1 hq
    rw [Reader.liftM_self, Reader.rounds_bind] at hq
    obtain ⟨ss, c₂, hss, hq⟩ := Reader.bind_eq_ok.1 hq
    cases hq
    exact ⟨c₁, c₂, derives_dbrps (Cursor.left_le_size _) hds,
      derives_statements (Cursor.left_le_size _) hss, rfl, hrun⟩
  · cases h

end Tickscript
