import Tickscript.Proofs.Traces

/-!
# Reading alike tokens

Two tokens are *alike* if they have the same kind and the same text; their positions and comments
may differ. No reader decides anything by a position or a comment: over alike tokens two runs of it
go the same way (`Reader.Alike`). In the end there are trees that differ in nothing but origins, or
errors with the same fault.

Where readers are put together the relation is kept (`Reader.Alike.bind`), so for each reader it is
enough to go through its definition.
-/

namespace Tickscript

/-! ## Tokens, cursors and runs -/

/-- The tokens have one kind and one text. -/
structure Token.Alike (t u : Token) : Prop where
  kind : t.kind = u.kind
  text : t.text = u.text

/-- Messages show tokens that are alike in the same way. -/
theorem Token.Alike.describe {t u : Token} (h : t.Alike u) : t.describe = u.describe := by
  unfold Token.describe
  rw [h.kind, h.text]

/-- The cursors stand on alike tokens, with alike tokens before them. -/
structure Cursor.Alike (c d : Cursor) : Prop where
  current : c.current.Alike d.current
  rest : List.Forall₂ Token.Alike c.rest d.rest

namespace Cursor.Alike

variable {c d : Cursor}

/-- Cursors over alike tokens stay alike when both go on by one token. -/
theorem advance (h : c.Alike d) : c.advance.Alike d.advance := by
  obtain ⟨t, ts⟩ := c
  obtain ⟨u, us⟩ := d
  obtain ⟨-, hrest⟩ := h
  cases hrest with
  | nil => exact ⟨⟨rfl, rfl⟩, .nil⟩
  | cons hhead htail => exact ⟨hhead, htail⟩

/-- Cursors over alike tokens have equally many tokens ahead. -/
theorem size (h : c.Alike d) : c.size = d.size := by
  unfold Cursor.size
  rw [h.rest.length_eq]

/-- An unexpected token is the same fault for both cursors. -/
theorem unexpected (h : c.Alike d) (expected : String) :
    (c.unexpected expected).fault = (d.unexpected expected).fault := by
  unfold Cursor.unexpected
  rw [h.current.kind, h.current.text, h.current.describe]

end Cursor.Alike

namespace Reader

variable {α β γ δ : Type} {R : α → β → Prop} {S : γ → δ → Prop}

/-- The runs end with values that `R` relates, in alike places, or with the same fault. -/
inductive Agree (R : α → β → Prop) :
    EStateM.Result SyntaxError Cursor α → EStateM.Result SyntaxError Cursor β → Prop where
  | ok {a : α} {b : β} {c d : Cursor} (h : R a b) (hc : c.Alike d) : Agree R (.ok a c) (.ok b d)
  | error {e f : SyntaxError} {c d : Cursor} (h : e.fault = f.fault) :
      Agree R (.error e c) (.error f d)

/-- From alike places on, the readers have runs that agree. -/
def Alike (R : α → β → Prop) (m : Reader α) (n : Reader β) : Prop :=
  ∀ c d, c.Alike d → Agree R (m c) (n d)

namespace Alike

/-- Readers that are alike, followed by readers that are alike on all alike values, are alike. -/
theorem bind {m : Reader α} {n : Reader β} {k : α → Reader γ} {l : β → Reader δ}
    (h : Alike R m n) (hk : ∀ a b, R a b → Alike S (k a) (l b)) : Alike S (m >>= k) (n >>= l) := by
  intro c d hcd
  have hrun := h c d hcd
  generalize hm : m c = x at hrun
  generalize hn : n d = y at hrun
  cases hrun with
  | ok hab hcd =>
    rw [bind_ok hm, bind_ok hn]
    exact hk _ _ hab _ _ hcd
  | error hef =>
    rw [bind_error hm, bind_error hn]
    exact .error hef

theorem pure {a : α} {b : β} (h : R a b) : Alike R (pure a) (pure b) :=
  fun _ _ hcd => .ok h hcd

/-- Looking at the kind of the current token gives the same answer. -/
theorem peek_bind {k : Kind → Reader γ} {l : Kind → Reader δ}
    (h : ∀ kind, Alike S (k kind) (l kind)) : Alike S (peek >>= k) (peek >>= l) := by
  intro c d hcd
  rw [Reader.peek_bind, Reader.peek_bind, ← hcd.current.kind]
  exact h _ c d hcd

/-- Both readers may go on with the number of tokens ahead, since it is the same. -/
theorem rounds_bind {k : Nat → Reader γ} {l : Nat → Reader δ} (h : ∀ n, Alike S (k n) (l n)) :
    Alike S (rounds >>= k) (rounds >>= l) := by
  intro c d hcd
  rw [Reader.rounds_bind, Reader.rounds_bind, ← hcd.size]
  exact h _ c d hcd

/-- Both readers may take a token, and go on with tokens that are alike. -/
theorem take_bind {k : Token → Reader γ} {l : Token → Reader δ}
    (h : ∀ t u, t.Alike u → Alike S (k t) (l u)) : Alike S (take >>= k) (take >>= l) := by
  intro c d hcd
  exact h _ _ hcd.current _ _ hcd.advance

/-- Both readers may expect a kind of token: they find it, or fail, together. -/
theorem expect_bind {kind : Kind} {k : Token → Reader γ} {l : Token → Reader δ}
    (h : ∀ t u, t.Alike u → Alike S (k t) (l u)) :
    Alike S (expect kind >>= k) (expect kind >>= l) := by
  intro c d hcd
  by_cases hk : c.current.kind = kind
  · rw [Reader.expect_bind hk, Reader.expect_bind (hcd.current.kind ▸ hk)]
    exact h _ _ hcd.current _ _ hcd.advance
  · rw [expect_bind_error hk, expect_bind_error (hcd.current.kind ▸ hk)]
    exact .error (hcd.unexpected _)

/-- A literal has its value wherever it stands. -/
theorem literal (p q : Position) (r : Except LiteralError α) :
    Alike Eq (Reader.literal p r) (Reader.literal q r) := by
  intro c d hcd
  cases r with
  | ok a => exact .ok rfl hcd
  | error e => exact .error rfl

/-- A literal has the same value wherever it stands, and the same fault if it has none. -/
theorem literal_bind {p q : Position} {r : Except LiteralError α} {k : α → Reader γ}
    {l : α → Reader δ} (h : ∀ a, Alike S (k a) (l a)) :
    Alike S (Reader.literal p r >>= k) (Reader.literal q r >>= l) :=
  .bind (.literal p q r) fun a _ hab => hab ▸ h a

theorem fail (R : α → β → Prop) (expected : String) :
    Alike R (Reader.fail expected) (Reader.fail expected) :=
  fun _ _ hcd => .error (hcd.unexpected expected)

theorem tooDeep (R : α → β → Prop) (limit : Nat) :
    Alike R (Reader.tooDeep limit) (Reader.tooDeep limit) :=
  fun _ _ _ => .error rfl

end Alike

end Reader

/-! ## Trees -/

/-- The expressions differ in nothing but origins. -/
def Expr.Alike (a b : Expr) : Prop := a.core = b.core

/-- The calls differ in nothing but origins. -/
def Call.Alike (a b : Call) : Prop :=
  a.mapOrigins .forget .forget .forget = b.mapOrigins .forget .forget .forget

theorem Expr.mapOriginsList_eq_of_alike {as bs : List Expr}
    (h : List.Forall₂ Expr.Alike as bs) :
    mapOriginsList .forget .forget as = mapOriginsList .forget .forget bs := by
  induction h with
  | nil => rfl
  | cons hab _ ih => exact congrArg₂ List.cons hab ih

theorem Call.mapOriginsList_eq_of_alike {as bs : List Call} (h : List.Forall₂ Call.Alike as bs) :
    mapOriginsList .forget .forget as = mapOriginsList .forget .forget bs := by
  induction h with
  | nil => rfl
  | cons hab _ ih => exact congrArg₂ List.cons hab ih

theorem Call.alike_mk {o o' : Origin} {kind : CallKind} {name : String} {as bs : List Expr}
    (h : List.Forall₂ Expr.Alike as bs) :
    Call.Alike (.mk o kind name as) (.mk o' kind name bs) := by
  unfold Call.Alike
  rw [mapOrigins, mapOrigins, Expr.mapOriginsList_eq_of_alike h]
  rfl

namespace Expr.Alike

variable {a b : Expr}

/-- Expressions of the same shape are alike. -/
theorem of_shape (h : a.shape = b.shape) : a.Alike b := by
  rw [Alike, ← core_shape a, h, core_shape b]

theorem takeLeadingComment (h : a.Alike b) :
    a.takeLeadingComment.2.Alike b.takeLeadingComment.2 :=
  (of_shape (shape_takeLeadingComment a)).trans
    (h.trans (of_shape (shape_takeLeadingComment b)).symm)

/-- Parentheses around alike expressions are shown, or not, on both. -/
theorem inParens (h : a.Alike b) (x y : Option Comment) : (a.inParens x).Alike (b.inParens y) := by
  have hparens : ∀ (e : Expr) z, (e.inParens z).core = e.core.parenthesize := by
    intro e z
    rw [← core_shape, shape_inParens, ← shape_parenthesize, core_shape]
    cases e <;> rfl
  exact (hparens a x).trans ((congrArg Expr.parenthesize h).trans (hparens b y).symm)

/-- Operands that are alike, joined by the same operator, make expressions that are alike. -/
theorem binary {o o' : Origin} {l l' r r' : Expr} (hl : l.Alike l') (hr : r.Alike r')
    (op : BinaryOp) (parens : Bool) :
    Alike (.binary o op l r parens) (.binary o' op l' r' parens) := by
  have hl : l.mapOrigins .forget .forget = l'.mapOrigins .forget .forget := hl
  have hr : r.mapOrigins .forget .forget = r'.mapOrigins .forget .forget := hr
  unfold Alike core
  rw [mapOrigins, mapOrigins, hl, hr]
  rfl

theorem unary {o o' : Origin} (h : a.Alike b) (op : UnaryOp) :
    Alike (.unary o op a) (.unary o' op b) := by
  have h : a.mapOrigins .forget .forget = b.mapOrigins .forget .forget := h
  unfold Alike core
  rw [mapOrigins, mapOrigins, h]
  rfl

theorem lambda {o o' : Origin} (h : a.Alike b) : Alike (.lambda o a) (.lambda o' b) := by
  have h : a.mapOrigins .forget .forget = b.mapOrigins .forget .forget := h
  unfold Alike core
  rw [mapOrigins, mapOrigins, h]
  rfl

/-- Lists with alike elements are alike. -/
theorem list {o o' : Origin} {as bs : List Expr} (h : List.Forall₂ Expr.Alike as bs) :
    Alike (.list o as) (.list o' bs) := by
  unfold Alike core
  rw [mapOrigins, mapOrigins, mapOriginsList_eq_of_alike h]
  rfl

/-- Chains with alike calls on sources of one name are alike. -/
theorem chain {o o' : Origin} {s s' : Ident} {as bs : List Call} (hs : s.name = s'.name)
    (h : List.Forall₂ Call.Alike as bs) : Alike (.chain o s as) (.chain o' s' bs) := by
  unfold Alike core
  rw [mapOrigins, mapOrigins, Call.mapOriginsList_eq_of_alike h, hs]
  rfl

theorem function {c d : Call} (h : c.Alike d) : Alike (.function c) (.function d) :=
  congrArg Expr.function h

end Expr.Alike

/-! ## Readers of expressions -/

namespace Expr

section Element

variable {element element' : Reader Expr} (h : Reader.Alike Expr.Alike element element')

include h

/-- Elements of lists and arguments are read alike if expressions are. -/
theorem alike_elements (close : Kind) (rounds : Nat) :
    Reader.Alike (List.Forall₂ Expr.Alike) (elements element close rounds)
      (elements element' close rounds) := by
  induction rounds with
  | zero => exact .fail _ _
  | succ rounds ih =>
    unfold elements
    refine .bind h fun a b hab => .peek_bind fun kind => ?_
    split
    · refine .take_bind fun _ _ _ => .bind ih fun as bs habs => ?_
      exact .pure (.cons hab habs)
    · exact .expect_bind fun _ _ _ => .pure (.cons hab .nil)

theorem alike_arguments (close : Kind) :
    Reader.Alike (List.Forall₂ Expr.Alike) (arguments element close)
      (arguments element' close) := by
  unfold arguments
  refine .peek_bind fun kind => ?_
  split
  · exact .take_bind fun _ _ _ => .pure .nil
  · exact .rounds_bind fun n => alike_elements h close n

theorem alike_callArguments :
    Reader.Alike (List.Forall₂ Expr.Alike) (callArguments element) (callArguments element') :=
  .expect_bind fun _ _ _ => alike_arguments h .rParen

/-- The calls of a chain are read alike if expressions are. -/
theorem alike_calls (rounds : Nat) :
    Reader.Alike (List.Forall₂ Call.Alike) (calls element rounds) (calls element' rounds) := by
  induction rounds with
  | zero => exact .pure .nil
  | succ rounds ih =>
    unfold calls
    refine .peek_bind fun kind => ?_
    split
    · exact .pure .nil
    · refine .take_bind fun _ _ _ => .expect_bind fun t u htu => ?_
      refine .bind (alike_callArguments h) fun as bs habs => .bind ih fun cs ds hcds => ?_
      rw [htu.text]
      exact .pure (.cons (Call.alike_mk habs) hcds)

theorem alike_chainFrom {t u : Token} (htu : t.Alike u) (keyword : Bool) :
    Reader.Alike Expr.Alike (chainFrom element t keyword) (chainFrom element' u keyword) := by
  unfold chainFrom
  refine .rounds_bind fun n => .bind (alike_calls h n) fun cs ds hcds => ?_
  have hempty : cs.isEmpty = ds.isEmpty := by cases hcds <;> rfl
  rw [hempty, htu.text]
  split
  · exact .pure rfl
  · exact .pure (.chain rfl hcds)

/-- Operands are read alike if the expressions nested in them are. -/
theorem alike_primary [Regex.Engine] :
    Reader.Alike Expr.Alike (primary element) (primary element') := by
  unfold primary
  refine .peek_bind fun kind => ?_
  split
  case h_8 =>
    refine .take_bind fun _ _ _ => .bind (alike_arguments h _) fun _ _ hab => ?_
    exact .pure (.list hab)
  case h_9 =>
    refine .take_bind fun _ _ _ => .expect_bind fun _ _ _ => .bind h fun _ _ hab => ?_
    exact .pure (.lambda hab)
  case h_10 =>
    refine .take_bind fun t u _ => .bind h fun a b hab => .expect_bind fun _ _ _ => ?_
    exact .pure (hab.inParens t.comment u.comment)
  case h_11 =>
    refine .take_bind fun t u htu => .peek_bind fun kind => ?_
    split
    · refine .bind (alike_callArguments h) fun _ _ hab => ?_
      rw [htu.text]
      exact .pure (.function (Call.alike_mk hab))
    · exact alike_chainFrom h htu false
  case h_12 | h_13 => exact .take_bind fun t u htu => alike_chainFrom h htu true
  case h_14 => exact .fail _ _
  all_goals
    refine .take_bind fun t u htu => ?_
    first
      | exact .pure rfl
      | rw [htu.text]
        first
          | exact .literal_bind fun _ => .pure rfl
          | exact .pure rfl

end Element

/-- With the same budget, operands are read alike, and so are the operators after alike
operands. -/
theorem alike_operand_climb [Regex.Engine] (budget : Nat) :
    Reader.Alike Expr.Alike (operand budget) (operand budget) ∧
      ∀ min a b, a.Alike b → Reader.Alike Expr.Alike (climb budget min a) (climb budget min b) := by
  induction budget with
  | zero =>
    refine ⟨.tooDeep _ _, fun min a b hab => ?_⟩
    unfold climb
    refine .peek_bind fun kind => ?_
    split
    · exact .pure hab
    · split
      · exact .pure hab
      · exact .tooDeep _ _
  | succ budget ih =>
    obtain ⟨ihoperand, ihclimb⟩ := ih
    refine ⟨?_, fun min a b hab => ?_⟩
    · unfold operand
      refine .peek_bind fun kind => ?_
      split
      · exact .take_bind fun _ _ _ => .bind ihoperand fun _ _ h => .pure (h.unary _)
      · exact alike_primary (.bind ihoperand fun a b hab => ihclimb 1 a b hab)
    · unfold climb
      refine .peek_bind fun kind => ?_
      split
      · exact .pure hab
      · split
        · exact .pure hab
        · -- Both runs fold the same operator, and go on with a smaller budget.
          refine .take_bind fun _ _ _ => .bind ihoperand fun x y hxy => ?_
          refine .bind (ihclimb _ x y hxy) fun r r' hr => ?_
          exact ihclimb _ _ _ (.binary hab.takeLeadingComment hr _ _)

/-- Over tokens that are alike, expressions are read that are alike, or both readings fail alike. -/
theorem alike_reader [Regex.Engine] : Reader.Alike Expr.Alike reader reader := by
  obtain ⟨hoperand, hclimb⟩ := alike_operand_climb maxNesting
  exact .bind hoperand fun a b hab => hclimb 1 a b hab

end Expr

/-! ## Readers of programs -/

/-- The lines differ in nothing but origins. -/
def DbrpLine.Alike (a b : DbrpLine) : Prop := a.sameAs b = true

/-- The statements differ in nothing but origins. -/
def Statement.Alike (a b : Statement) : Prop := a.sameAs b = true

/-- The bindings differ in nothing but origins. -/
inductive Binding.Alike : Binding → Binding → Prop where
  | value {a b : Expr} (h : a.Alike b) : Alike (.value a) (.value b)
  | template (type : VarType) : Alike (.template type) (.template type)

namespace DbrpLine

theorem alike_name : Reader.Alike Eq name name := by
  unfold name
  refine .peek_bind fun kind => ?_
  split
  · refine .take_bind fun t u htu => ?_
    rw [htu.text]
    exact .literal _ _ _
  · refine .take_bind fun t u htu => ?_
    rw [htu.text]
    exact .literal _ _ _
  · exact .fail _ _

/-- A `dbrp` line over alike tokens names the same database and retention policy. -/
theorem alike_reader : Reader.Alike DbrpLine.Alike reader reader := by
  unfold reader
  refine .take_bind fun _ _ _ => .bind alike_name fun _ _ hdb => .expect_bind fun _ _ _ => ?_
  refine .bind alike_name fun _ _ hrp => ?_
  subst hdb hrp
  exact .pure (by simp [DbrpLine.Alike, sameAs])

theorem alike_many (rounds : Nat) :
    Reader.Alike (List.Forall₂ DbrpLine.Alike) (many rounds) (many rounds) := by
  induction rounds with
  | zero => exact .pure .nil
  | succ rounds ih =>
    unfold many
    refine .peek_bind fun kind => ?_
    split
    · exact .bind alike_reader fun _ _ hd => .bind ih fun _ _ hds => .pure (.cons hd hds)
    · exact .pure .nil

end DbrpLine

namespace Statement

theorem typeName?_eq {t u : Token} (h : t.Alike u) : typeName? t = typeName? u := by
  unfold typeName?
  rw [h.kind, h.text]

variable [Regex.Engine]

/-- What a declaration binds is read alike. -/
theorem alike_binding :
    Reader.Alike Binding.Alike (binding Expr.reader) (binding Expr.reader) := by
  simp only [binding, Reader.liftM_self]
  refine .peek_bind fun kind => ?_
  split
  · exact .take_bind fun _ _ _ => .bind Expr.alike_reader fun _ _ h => .pure (.value h)
  · intro c d hcd
    rw [Reader.current_bind, Reader.current_bind, typeName?_eq hcd.current]
    cases typeName? d.current with
    | none => exact .error (hcd.unexpected _)
    | some type => exact .ok (.template type) hcd.advance

theorem alike_declaration :
    Reader.Alike Statement.Alike (declaration Expr.reader) (declaration Expr.reader) := by
  simp only [declaration, Reader.liftM_self]
  refine .take_bind fun _ _ _ => .expect_bind fun t u htu => ?_
  refine .bind alike_binding fun a b hab => .pure ?_
  cases hab with
  | value h => simp [Statement.Alike, sameAs, htu.text, (Expr.sameAs_iff _ _).2 h]
  | template type => simp [Statement.Alike, sameAs, htu.text]

/-- Statements are read alike. -/
theorem alike_reader : Reader.Alike Statement.Alike reader reader := by
  simp only [reader, readerOver, Reader.liftM_self]
  refine .peek_bind fun kind => ?_
  split
  · exact alike_declaration
  · exact .bind Expr.alike_reader fun a b hab => .pure ((Expr.sameAs_iff a b).2 hab)

theorem alike_many (rounds : Nat) :
    Reader.Alike (List.Forall₂ Statement.Alike) (many Expr.reader rounds)
      (many Expr.reader rounds) := by
  induction rounds with
  | zero => exact .pure .nil
  | succ rounds ih =>
    simp only [many, Reader.liftM_self]
    refine .peek_bind fun kind => ?_
    split
    · exact .pure .nil
    · exact .bind alike_reader fun _ _ hs => .bind ih fun _ _ hss => .pure (.cons hs hss)

end Statement

namespace Program

/-- The outcomes are programs that are the same, or errors with one fault. -/
inductive SameOutcome : Except SyntaxError Program → Except SyntaxError Program → Prop where
  | ok {p q : Program} (h : p.sameAs q = true) : SameOutcome (.ok p) (.ok q)
  | error {e f : SyntaxError} (h : e.fault = f.fault) : SameOutcome (.error e) (.error f)

theorem alike_trailing : Reader.Alike (fun _ _ => True) trailing trailing :=
  fun _ _ hcd => .ok trivial ⟨⟨hcd.current.kind, hcd.current.text⟩, hcd.rest⟩

/-- Over tokens that are alike, the same program is read up to positions and comments. -/
theorem alike_reader [Regex.Engine] :
    Reader.Alike (fun p q : Program => p.sameAs q = true) reader reader := by
  simp only [reader, readerOver, Reader.liftM_self]
  refine .rounds_bind fun n => .bind (DbrpLine.alike_many n) fun ds ds' hds => ?_
  refine .rounds_bind fun m => .bind (Statement.alike_many m) fun ss ss' hss => ?_
  refine .bind alike_trailing fun _ _ _ => .pure ?_
  rw [sameAs, Bool.and_eq_true]
  exact ⟨allSame_iff.2 hds, allSame_iff.2 hss⟩

/-- Lists of alike tokens make cursors that are alike. -/
theorem alike_ofList {ts us : List Token} (h : List.Forall₂ Token.Alike ts us) :
    (Cursor.ofList ts).Alike (.ofList us) := by
  cases h with
  | nil => exact ⟨⟨rfl, rfl⟩, .nil⟩
  | cons hhead htail => exact ⟨hhead, htail⟩

/-- Alike tokens are the same program, or none for the same reason. -/
theorem sameOutcome_ofTokens [Regex.Engine] {ts us : List Token}
    (h : List.Forall₂ Token.Alike ts us) :
    SameOutcome (ofTokens ts) (ofTokens us) := by
  have hrun := alike_reader _ _ (alike_ofList h)
  unfold ofTokens
  generalize reader (.ofList ts) = x at hrun
  generalize reader (.ofList us) = y at hrun
  cases hrun with
  | ok hpq _ => exact .ok hpq
  | error hef => exact .error hef

end Program

end Tickscript
