import Tickscript.Proofs.Comments
import Tickscript.Proofs.Parentheses

/-!
# Trees that were read

What is true of every tree that the reader gives: there is a literal for each of its values, or
nearly so (`Number.IsLegal`); it keeps parentheses wherever the place of a binary expression needs
them; and the lines of its comments are trimmed. `Program.parsed` puts this together for a program,
by an induction over the derivation that the reader went through.
-/

namespace Tickscript

open Lexer (Spells)

/-! ## Tokens of a source -/

/-- What is known of the tokens of a source. -/
structure Token.Scanned (t : Token) : Prop where
  spells : t.kind ∉ [.error, .eof, .not] → Spells t.kind t.text.toList
  comment : Comment.Trimmed t.comment

/-- The end of the input spells nothing and has no comment. -/
theorem Token.scanned_endAt (p : Position) : (Token.endAt p).Scanned :=
  ⟨fun hk => absurd (by simp [Token.endAt]) hk, Comment.trimmed_none⟩

/-- The next token of a source is spelled as its text, and its comment is trimmed. -/
theorem Lexer.scanned_next (l : Lexer) : l.next.1.Scanned := by
  refine ⟨fun hk => ?_, Comment.trimmed_commentOf _⟩
  obtain ⟨hspells, htext⟩ := spells_of_scan (Trivia.first?_split l.rest) hk
  simp only [next, htext, String.toList_ofList]
  exact hspells

/-- What holds of the next token holds of all of them. -/
theorem Lexer.scanned_tokens (l : Lexer) : ∀ t ∈ l.tokens, t.Scanned := by
  induction hn : l.rest.length using Nat.strongRecOn generalizing l with
  | _ n ih =>
    by_cases hk : l.piece.kind = .eof
    · rw [tokens_eof hk]
      simpa using l.scanned_next
    · rw [tokens_cons hk]
      intro t ht
      rcases List.mem_cons.1 ht with rfl | ht
      · exact l.scanned_next
      · exact ih _ (hn ▸ l.next_rest_length_lt hk) l.next.2 rfl t ht

/-- The text of a token in a source spells the kind of the token. -/
theorem Token.spells_of_mem {source : String} {t : Token} (ht : t ∈ tokenize source) {k : Kind}
    (hk : t.kind = k) (hne : k ∉ [.error, .eof, .not]) : Spells k t.text.toList := by
  subst hk
  exact ((Lexer.start source).scanned_tokens t ht).spells hne

/-- A text that spells a token is that token, and nothing else. -/
theorem Lexer.Spells.tokenize_eq {k : Kind} {text : String} (h : Spells k text.toList)
    (hk : Lexer.mayFollow none k = true) :
    (tokenize text).map Token.word = [(k, text, none), (.eof, "", none)] := by
  have hrest : (Lexer.start text).rest = Piece.sourceOf [⟨[], k, text.toList⟩] ++ [] := by
    simp [Lexer.start]
  obtain ⟨l, hyields, hl, -⟩ := Lexer.yields_pieces hrest (by simpa using ⟨.nil, h⟩)
    ⟨fun _ hc => (by cases hc), trivial⟩ ⟨hk, trivial⟩
  obtain ⟨ts, hts, hwords⟩ := hyields.tokens (by simpa using h.kind_ne.2)
  have hlast := Lexer.tokens_gap (g := []) hl .nil
  rw [tokenize, hts, List.map_append, hwords, hlast]
  simp [Piece.word, Trivia.commentOf]

/-- What names are: texts that are one identifier. -/
theorem Lexer.spells_identifier_iff (name : String) :
    Spells .identifier name.toList ↔
      (tokenize name).map Token.word = [(.identifier, name, none), (.eof, "", none)] := by
  refine ⟨fun h => h.tokenize_eq rfl, fun h => ?_⟩
  obtain ⟨t, ts, htokens⟩ : ∃ t ts, tokenize name = t :: ts := by
    cases hts : tokenize name with
    | nil => simp [hts] at h
    | cons t ts => exact ⟨t, ts, rfl⟩
  have hscanned := (Lexer.start name).scanned_tokens t (by
    rw [← tokenize, htokens]
    simp)
  rw [htokens, List.map_cons, List.cons.injEq, Token.word, Prod.mk.injEq, Prod.mk.injEq] at h
  obtain ⟨⟨hk, htext, -⟩, -⟩ := h
  rw [← hk, ← htext]
  exact hscanned.spells (by rw [hk]; decide)

namespace Cursor

/-- A place in the tokens of a source. -/
def Scanned (c : Cursor) : Prop := c.current.Scanned ∧ ∀ t ∈ c.rest, t.Scanned

/-- What is known of the tokens ahead is known of those behind the next one. -/
theorem Scanned.advance {c : Cursor} (h : c.Scanned) : c.advance.Scanned := by
  unfold Cursor.advance
  split
  · exact ⟨Token.scanned_endAt _, by simp⟩
  · next t ts hrest =>
    obtain ⟨-, hall⟩ := h
    rw [hrest] at hall
    exact ⟨hall t (by simp), fun u hu => hall u (by simp [hu])⟩

/-- Taking tokens leaves known tokens ahead. -/
theorem Took.scanned {c c' : Cursor} {ts : List Token} (h : Took c ts c') (hc : c.Scanned) :
    c'.Scanned := by
  induction h with
  | nil => exact hc
  | cons _ _ ih => exact ih hc.advance

theorem scanned_tokenize (source : String) : (ofList (tokenize source)).Scanned := by
  have hall := (Lexer.start source).scanned_tokens
  unfold tokenize
  cases htokens : (Lexer.start source).tokens with
  | nil => exact ⟨Token.scanned_endAt _, by simp [ofList]⟩
  | cons t ts =>
    rw [htokens] at hall
    exact ⟨hall t (by simp), fun u hu => hall u (List.mem_cons_of_mem _ hu)⟩

end Cursor

/-- The comments of the lines of databases are trimmed. -/
theorem DerivesDbrps.parsed {ds : List DbrpLine} {c c' : Cursor} (h : DerivesDbrps ds c c')
    (hc : c.Scanned) : (∀ d ∈ ds, Comment.Trimmed d.origin.comment) ∧ c'.Scanned := by
  induction h with
  | nil => exact ⟨by simp, hc⟩
  | @cons c c' db rp ds _ _ _ _ _ _ _ ih =>
    obtain ⟨ih, hc'⟩ := ih hc.advance.advance.advance.advance
    refine ⟨fun x hx => ?_, hc'⟩
    rcases List.mem_cons.1 hx with rfl | hx
    · exact hc.1.comment
    · exact ih x hx

/-- Whatever a derivation takes, known tokens are left ahead. -/
theorem Derives.scanned [Regex.Engine] {g : Goal} {c c' : Cursor} (h : Derives g c c')
    (hc : c.Scanned) : c'.Scanned := by
  obtain ⟨ts, ht, -⟩ := h.account
  exact ht.scanned hc

/-! ## Values of literals -/

/-- A rounded quotient is a finite number without a sign, or infinity. -/
theorem Binary64.ofRatio_isLegal (num den : Nat) : Number.IsLegal (.float (ofRatio num den)) := by
  unfold ofRatio
  simp only
  generalize Binary64.scaleFor num den * 2 ^ 52 + _ = n
  have hinf : infinityMagnitude < 2 ^ 63 := by decide
  by_cases hn : infinityMagnitude ≤ n
  · rw [Nat.min_eq_left hn]
    exact .inr rfl
  · have hlt : n < infinityMagnitude := Nat.lt_of_not_le hn
    rw [Nat.min_eq_right hlt.le]
    have hbits : (UInt64.ofNat n).toNat = n := UInt64.toNat_ofNat_of_lt' (by
      have : UInt64.size = 2 ^ 64 := rfl
      omega)
    left
    simp only [isNegative, isFinite, magnitude, hbits, Nat.pow_eq, decide_eq_false_iff_not,
      decide_eq_true_eq]
    omega

/-- Numbers that are read can be written again, or are infinite. -/
theorem Number.isLegal_of_read {text : String} {v : Number} (h : read text = .ok v) :
    v.IsLegal := by
  by_cases hkind : IsWhole text.toList ∨ IsPointed text.toList
  · rcases hkind with hwhole | hpoint
    · rw [read_of_isWhole hwhole] at h
      split at h
      · next hle =>
        cases h
        exact hle
      · cases h
    · obtain ⟨whole, fraction, htext⟩ := hpoint.exists_sides
      rw [read_of_isPointed hpoint htext] at h
      cases h
      exact Binary64.ofRatio_isLegal ..
  · rw [read_of_neither hkind] at h
    cases h

/-- A duration that is read fits into its limit. -/
theorem Duration.lt_limit_of_read {text : String} {v : Nat} (h : read text = .ok v) :
    v < limit := by
  unfold read at h
  split at h
  · cases h
  · split at h
    · next hlt =>
      cases h
      simp only [Bool.and_eq_true, decide_eq_true_eq] at hlt
      exact hlt.2
    · cases h

/-- A string that was read between triple quotes fits there. -/
theorem Quote.fitsTriple_of_read {text v : String} (hs : Spells .string text.toList)
    (h : readString text = .ok v) (hp : triple.isPrefixOf text.toList = true) : FitsTriple v := by
  rw [List.isPrefixOf_iff_prefix] at hp
  rcases hs.string_inv with ⟨body, htext, hcloses⟩ | ⟨body, htext, hcloses⟩
  · refine absurd ?_ (@Lexer.take_two_of_closes body [] hcloses (by simp))
    obtain ⟨rest, hrest⟩ := hp
    rw [htext] at hrest
    rw [List.append_nil, ← (List.cons.inj hrest).2]
    rfl
  · obtain ⟨inside, rfl, hbetween⟩ := hcloses.between?_eq
    rw [readString, htext, hbetween] at h
    cases h
    unfold FitsTriple
    rw [String.toList_ofList]
    exact (Lexer.closesTriple_iff inside).1 hcloses

/-- What is read from a regex of a source can be written as a regex. -/
theorem Regex.isPattern_of_read [Regex.Engine] {text pattern : String}
    (hs : Spells .regex text.toList) (h : read text = .ok pattern) : IsPattern pattern := by
  obtain ⟨body, htext, hbody⟩ := hs.regex_inv
  refine ⟨body, hbody, ?_⟩
  rwa [← htext, String.ofList_toList]

/-- What patterns are: what is read for the regexes of sources. -/
theorem Regex.isPattern_iff [Regex.Engine] (pattern : String) :
    IsPattern pattern ↔
      ∃ source, ∃ t ∈ tokenize source, t.kind = .regex ∧ read t.text = .ok pattern := by
  constructor
  · rintro ⟨body, hbody, hread⟩
    refine ⟨String.ofList ('/' :: body ++ ['/']), ?_⟩
    have hwords := @Lexer.Spells.tokenize_eq .regex (String.ofList ('/' :: body ++ ['/']))
      (by rw [String.toList_ofList]; exact .regex hbody) rfl
    obtain ⟨t, ht, hword⟩ := List.mem_map.1 (hwords ▸ List.mem_cons_self)
    rw [Token.word, Prod.mk.injEq, Prod.mk.injEq] at hword
    exact ⟨t, ht, hword.1, by rw [hword.2.1, hread]⟩
  · rintro ⟨source, t, ht, hk, hread⟩
    exact isPattern_of_read (Token.spells_of_mem ht hk (by decide)) hread

/-- The words that are the two keywords. -/
theorem Lexer.Spells.keyword {text : String} {k : Kind} (h : Spells k text.toList)
    (hk : k = .stream ∨ k = .batch) : text = "stream" ∨ text = "batch" := by
  have hword : wordKind text = k := by
    generalize htext : text.toList = cs at h
    cases h with
    | word _ _ hword _ => rwa [← htext, String.ofList_toList] at hword
    | symbol h => rcases hk with rfl | rfl <;> simp [symbols] at h
    | _ => simp at hk
  subst hword
  unfold wordKind at hk
  split at hk <;> simp_all

/-! ## Expressions -/

/-- The comments in front of the expression, one of which is taken off when it is folded, are
trimmed. -/
def Expr.LeadTrimmed : Expr → Prop
  | .binary o _ l _ _ => Comment.Trimmed o.comment ∧ l.LeadTrimmed
  | e => Comment.Trimmed e.comment

namespace Expr

theorem LeadTrimmed.comment {e : Expr} (h : e.LeadTrimmed) : Comment.Trimmed e.comment := by
  cases e with
  | binary => exact h.1
  | _ => exact h

/-- Another comment may take the place of the one in front. -/
theorem LeadTrimmed.withComment {e : Expr} (h : e.LeadTrimmed) {c : Option Comment}
    (hc : Comment.Trimmed c) : (e.withComment c).LeadTrimmed := by
  cases e with
  | binary => exact ⟨hc, h.2⟩
  | function call => cases call; exact hc
  | _ => exact hc

/-- The comment that is taken off is trimmed, and so are those that are left. -/
theorem LeadTrimmed.takeLeadingComment {e : Expr} (h : e.LeadTrimmed) :
    Comment.Trimmed e.takeLeadingComment.1 ∧ e.takeLeadingComment.2.LeadTrimmed := by
  induction e using Expr.takeLeadingComment.induct with
  | case1 o op l r p c hc =>
    simp only [Expr.takeLeadingComment, hc]
    exact ⟨hc ▸ h.1, Comment.trimmed_none, h.2⟩
  | case2 o op l r p hc _ _ _ ih =>
    simp only [Expr.takeLeadingComment, hc]
    exact ⟨(ih h.2).1, h.1, (ih h.2).2⟩
  | case3 e hne =>
    rw [Expr.takeLeadingComment]
    · exact ⟨h.comment, h.withComment Comment.trimmed_none⟩
    · exact hne

theorem trimmed_foldedOrigin {leading : Option Comment} (h : Comment.Trimmed leading) {t : Token}
    (ht : Comment.Trimmed t.comment) : Comment.Trimmed (foldedOrigin leading t).comment := by
  cases leading with
  | none => exact ht
  | some lines => exact Comment.trimmed_append h ht

/-- A fold keeps the comments in front trimmed. -/
theorem LeadTrimmed.fold {l : Expr} (h : l.LeadTrimmed) {t : Token}
    (ht : Comment.Trimmed t.comment) (op : BinaryOp) (r : Expr) : (l.fold t op r).LeadTrimmed := by
  obtain ⟨hc, hl⟩ := h.takeLeadingComment
  exact ⟨trimmed_foldedOrigin hc ht, hl⟩

end Expr

/-! ### Marks for parentheses -/

/-- An expression that is not binary, unless in parentheses. -/
def Expr.Whole (e : Expr) : Prop := ∀ min, e.fitsMin min

mutual

/-- Every binary expression has the parentheses that its place needs. -/
def Expr.Normal : Expr → Prop
  | .list _ es => Expr.NormalList es
  | .lambda _ body => body.Normal
  | .unary _ _ e => e.Whole ∧ e.Normal
  | .binary _ op l r _ =>
    (l.fitsMin op.precedence ∧ l.Normal) ∧ r.fitsMin (op.precedence + 1) ∧ r.Normal
  | .function (.mk _ _ _ args) => Expr.NormalList args
  | .chain _ _ cs => Call.NormalList cs
  | _ => True

/-- Every binary expression in a list has the parentheses that its place needs. -/
def Expr.NormalList : List Expr → Prop
  | [] => True
  | e :: es => e.Normal ∧ Expr.NormalList es

/-- Every binary expression in the calls of a chain has the parentheses that its place needs. -/
def Call.NormalList : List Call → Prop
  | [] => True
  | .mk _ _ _ args :: cs => Expr.NormalList args ∧ Call.NormalList cs

end

attribute [simp] Expr.Normal Expr.NormalList Call.NormalList

namespace Expr

/-- Places and comments do not matter to where an operand fits. -/
theorem fitsMin_mapOrigins (f g : Origin → Origin) {e : Expr} {min : Nat} (h : e.fitsMin min) :
    (e.mapOrigins f g).fitsMin min := by
  cases e with
  | binary => exact h
  | _ => trivial

/-- An operand that fits its place needs no other mark. -/
theorem fitsMin_takeLeadingComment {e : Expr} {min : Nat} (h : e.fitsMin min) :
    e.takeLeadingComment.2.fitsMin min := by
  cases e with
  | binary o op l r p =>
    cases hc : o.comment <;> simpa [takeLeadingComment, hc, fitsMin] using h
  | function call => cases call; trivial
  | _ => trivial

/-- An operand that fits its place is not marked again. -/
theorem marked_eq {e : Expr} {min : Nat} {fits : Nat → Bool} (h : e.fitsMin min)
    (hfits : ∀ p, min ≤ p → fits p = true) : e.marked (e.needsParens fits) = e := by
  cases e with
  | binary o op l r p =>
    cases p with
    | true => rfl
    | false => simp [marked, needsParens, hfits _ (h rfl)]
  | _ => rfl

/-- A whole expression is not marked by any place. -/
theorem Whole.marked_eq {e : Expr} (h : e.Whole) :
    e.marked (e.needsParens fun _ => false) = e := by
  cases e with
  | binary o op l r p =>
    cases p with
    | true => rfl
    | false => exact absurd (h (op.precedence + 1) rfl) (by omega)
  | _ => rfl

/-- Whatever stands in parentheses is whole. -/
theorem whole_inParens (c : Option Comment) (e : Expr) : (e.inParens c).Whole := by
  have hparen : ∀ x : Expr, x.parenthesize.Whole := by
    intro x min
    cases x <;> simp [parenthesize, fitsMin]
  exact hparen _

end Expr

mutual

/-- An expression with the parentheses that it needs comes back with the same marks. -/
theorem Expr.Normal.reread_eq {e : Expr} (h : e.Normal) :
    e.reread = e.mapOrigins .forget .reread := by
  match e with
  | .number .. | .string .. | .duration .. | .regex .. | .bool .. | .star .. | .identifier ..
  | .reference .. => rfl
  | .list _ es => rw [Expr.reread, Expr.mapOrigins, @Expr.NormalList.reread_eq es h]; rfl
  | .lambda _ b => rw [Expr.reread, Expr.mapOrigins, Expr.Normal.reread_eq (e := b) h]; rfl
  | .unary _ _ x =>
    have hwhole : (x.mapOrigins .forget .reread).Whole :=
      fun min => Expr.fitsMin_mapOrigins _ _ (h.1 min)
    have hmarked := hwhole.marked_eq
    rw [Expr.needsParens_mapOrigins] at hmarked
    rw [Expr.reread, Expr.mapOrigins, Expr.Normal.reread_eq (e := x) h.2, hmarked]
    rfl
  | .binary _ op l r _ =>
    have hl := @Expr.marked_eq _ _ (fun p => op.precedence ≤ p)
      (Expr.fitsMin_mapOrigins .forget .reread h.1.1) (by simp)
    have hr := @Expr.marked_eq _ _ (fun p => op.precedence < p)
      (Expr.fitsMin_mapOrigins .forget .reread h.2.1) (by simp)
    rw [Expr.needsParens_mapOrigins] at hl hr
    rw [Expr.reread, Expr.mapOrigins, Expr.Normal.reread_eq (e := l) h.1.2,
      Expr.Normal.reread_eq (e := r) h.2.2, hl, hr]
    rfl
  | .function (.mk _ _ _ args) =>
    rw [Expr.reread, Call.reread, Expr.mapOrigins, Call.mapOrigins,
      @Expr.NormalList.reread_eq args h]
    rfl
  | .chain _ _ cs => rw [Expr.reread, Expr.mapOrigins, @Call.NormalList.reread_eq cs h]; rfl

/-- A list whose marks are all there comes back with the same marks. -/
theorem Expr.NormalList.reread_eq {es : List Expr} (h : Expr.NormalList es) :
    Expr.rereadList es = Expr.mapOriginsList .forget .reread es := by
  match es with
  | [] => rfl
  | e :: es =>
    rw [Expr.rereadList, Expr.mapOriginsList, Expr.Normal.reread_eq (e := e) h.1,
      @Expr.NormalList.reread_eq es h.2]

theorem Call.NormalList.reread_eq {cs : List Call} (h : Call.NormalList cs) :
    Call.rereadList cs = Call.mapOriginsList .forget .reread cs := by
  match cs with
  | [] => rfl
  | .mk _ _ _ args :: cs =>
    rw [Call.rereadList, Call.reread, Call.mapOriginsList, Call.mapOrigins,
      @Expr.NormalList.reread_eq args h.1, @Call.NormalList.reread_eq cs h.2]
    rfl

end

/-! ### Derivations -/

variable [Regex.Engine]

/-- What is true of an expression that was read. -/
structure Expr.Parsed (e : Expr) : Prop where
  wellFormed : e.WellFormed Number.IsLegal
  normal : e.Normal
  calls : ∀ o ∈ e.callOrigins, Comment.Trimmed o.comment
  leading : e.LeadTrimmed

/-- What is true of a call in a chain that was read. -/
structure Call.Parsed (c : Call) : Prop where
  kind : c.kind ≠ .global
  name : Spells .identifier c.name.toList
  comment : Comment.Trimmed c.origin.comment
  args : ∀ e ∈ c.args, e.Parsed

/-- What is true of expressions that were read. -/
theorem Expr.parsedList {es : List Expr} (h : ∀ e ∈ es, e.Parsed) :
    Expr.WellFormedList Number.IsLegal es ∧ Expr.NormalList es ∧
      ∀ o ∈ Expr.callOriginsList es, Comment.Trimmed o.comment := by
  induction es with
  | nil => exact ⟨trivial, trivial, by simp [Expr.callOriginsList]⟩
  | cons e es ih =>
    have he := h e (by simp)
    obtain ⟨hwf, hnormal, hcalls⟩ := ih fun x hx => h x (by simp [hx])
    refine ⟨⟨he.wellFormed, hwf⟩, ⟨he.normal, hnormal⟩, fun o ho => ?_⟩
    rcases List.mem_append.1 ho with ho | ho
    · exact he.calls o ho
    · exact hcalls o ho

/-- What is true of the calls of a chain that were read. -/
theorem Call.parsedList {cs : List Call} (h : ∀ c ∈ cs, c.Parsed) :
    Call.WellFormedList Number.IsLegal cs ∧ Call.NormalList cs ∧
      ∀ o ∈ Call.callOriginsList cs, Comment.Trimmed o.comment := by
  induction cs with
  | nil => exact ⟨trivial, trivial, by simp [Call.callOriginsList]⟩
  | cons c cs ih =>
    obtain ⟨o, kind, name, args⟩ := c
    have hc := h (.mk o kind name args) (by simp)
    obtain ⟨hwf, hnormal, hcalls⟩ := ih fun x hx => h x (by simp [hx])
    obtain ⟨hargs, hargsNormal, hargsCalls⟩ := Expr.parsedList hc.args
    refine ⟨⟨hc.kind, hc.comment.hasLines, ⟨hc.name, hargs⟩, hwf⟩, ⟨hargsNormal, hnormal⟩,
      fun x hx => ?_⟩
    simp only [Call.callOriginsList, List.cons_append, List.mem_cons, List.mem_append] at hx
    rcases hx with rfl | hx | hx
    · exact hc.comment
    · exact hargsCalls x hx
    · exact hcalls x hx

namespace Expr

/-- Another comment in front leaves the tree one that was read. -/
theorem Parsed.withComment {e : Expr} (h : e.Parsed) {c : Option Comment}
    (hc : Comment.Trimmed c) : (e.withComment c).Parsed := by
  refine ⟨?_, ?_, ?_, h.leading.withComment hc⟩
  · cases e with
    | function call => cases call; exact h.wellFormed
    | _ => exact h.wellFormed
  · cases e with
    | function call => cases call; exact h.normal
    | _ => exact h.normal
  · cases e with
    | function call => cases call; exact h.calls
    | _ => exact h.calls

/-- Parentheses around a tree that was read give one. -/
theorem Parsed.inParens {e : Expr} (h : e.Parsed) {c : Option Comment} (hc : Comment.Trimmed c) :
    (e.inParens c).Parsed := by
  have hparen : ∀ x : Expr, x.Parsed → x.parenthesize.Parsed := by
    intro x hx
    cases x <;> exact ⟨hx.wellFormed, hx.normal, hx.calls, hx.leading⟩
  unfold Expr.inParens
  split
  · exact hparen _ (h.withComment hc)
  · exact hparen _ h

/-- Taking the comment off the front leaves nothing that is worse. -/
theorem Parsed.takeLeadingComment {e : Expr} (h : e.Parsed) : e.takeLeadingComment.2.Parsed := by
  have hleading := h.leading.takeLeadingComment.2
  suffices hrest : e.takeLeadingComment.2.WellFormed Number.IsLegal ∧
      e.takeLeadingComment.2.Normal ∧
      ∀ o ∈ e.takeLeadingComment.2.callOrigins, Comment.Trimmed o.comment from
    ⟨hrest.1, hrest.2.1, hrest.2.2, hleading⟩
  obtain ⟨hwf, hnormal, hcalls, -⟩ := h
  clear hleading
  induction e using Expr.takeLeadingComment.induct with
  | case1 o op l r p c hc =>
    simp only [Expr.takeLeadingComment, hc]
    exact ⟨hwf, hnormal, hcalls⟩
  | case2 o op l r p hc _ _ _ ih =>
    obtain ⟨hwf', hnormal', hcalls'⟩ := ih hwf.1 hnormal.1.2
      fun x hx => hcalls x (List.mem_append_left _ hx)
    simp only [Expr.takeLeadingComment, hc]
    refine ⟨⟨hwf', hwf.2⟩, ⟨⟨fitsMin_takeLeadingComment hnormal.1.1, hnormal'⟩, hnormal.2⟩,
      fun x hx => ?_⟩
    rcases List.mem_append.1 hx with hx | hx
    · exact hcalls' x hx
    · exact hcalls x (List.mem_append_right _ hx)
  | case3 e hne =>
    rw [Expr.takeLeadingComment]
    · cases e with
      | function call => cases call; exact ⟨hwf, hnormal, hcalls⟩
      | _ => exact ⟨hwf, hnormal, hcalls⟩
    · exact hne

/-- A fold of trees that were read gives one, if both operands fit their places. -/
theorem Parsed.fold {l r : Expr} (hl : l.Parsed) (hr : r.Parsed) {t : Token}
    (ht : Comment.Trimmed t.comment) {op : BinaryOp} (hfitsL : l.fitsMin op.precedence)
    (hfitsR : r.fitsMin (op.precedence + 1)) : (l.fold t op r).Parsed := by
  have hl' := hl.takeLeadingComment
  refine ⟨⟨hl'.wellFormed, hr.wellFormed⟩,
    ⟨⟨fitsMin_takeLeadingComment hfitsL, hl'.normal⟩, hfitsR, hr.normal⟩, fun o ho => ?_,
    hl.leading.fold ht op r⟩
  rcases List.mem_append.1 ho with ho | ho
  · exact hl'.calls o ho
  · exact hr.calls o ho

end Expr

/-- What is true of the result of a run for a goal from the cursor `c`. Behind a climb from `l`
stands no operator that binds less tightly than `l` allows. -/
def Goal.Parsed : Goal → Cursor → Prop
  | operand _ e, _ => e.Parsed ∧ e.Whole
  | climb _ min l e, c => l.Parsed → l.fitsMin min →
      (∀ op, BinaryOp.ofKind? c.current.kind = some op → l.fitsMin op.precedence) →
      e.Parsed ∧ e.fitsMin min
  | expression _ e, _ => e.Parsed
  | arguments _ _ es, _ => ∀ e ∈ es, e.Parsed
  | elements _ _ es, _ => ∀ e ∈ es, e.Parsed
  | calls _ cs, _ => ∀ c ∈ cs, c.Parsed

/-- Whatever the grammar derives from known tokens has the properties of trees that were read. -/
theorem Derives.parsed {g : Goal} {c c' : Cursor} (h : Derives g c c') (hc : c.Scanned) :
    g.Parsed c := by
  have hleaf : ∀ {e : Expr}, e.WellFormed Number.IsLegal → e.Normal → e.callOrigins = [] →
      e.LeadTrimmed → e.Whole → e.Parsed ∧ e.Whole := by
    intro e hwf hnormal hcalls hlead hwhole
    exact ⟨⟨hwf, hnormal, by simp [hcalls], hlead⟩, hwhole⟩
  have hword : ∀ {c : Cursor}, c.Scanned → c.current.kind = .identifier →
      Spells .identifier c.current.text.toList := by
    intro c hc hk
    rw [← hk]
    exact hc.1.spells (by rw [hk]; decide)
  induction h with
  | unary hop _ ih =>
    obtain ⟨he, hwhole⟩ := ih hc.advance
    exact ⟨⟨he.wellFormed, ⟨hwhole, he.normal⟩, he.calls, hc.1.comment⟩, fun _ => trivial⟩
  | number hk hv =>
    exact hleaf (Number.isLegal_of_read hv) trivial rfl hc.1.comment fun _ => trivial
  | duration hk hv =>
    exact hleaf (Duration.lt_limit_of_read hv) trivial rfl hc.1.comment fun _ => trivial
  | string hk hv =>
    refine hleaf (fun hp => Quote.fitsTriple_of_read ?_ hv hp) trivial rfl hc.1.comment
      fun _ => trivial
    rw [← hk]
    exact hc.1.spells (by rw [hk]; decide)
  | reference hk hv => exact hleaf trivial trivial rfl hc.1.comment fun _ => trivial
  | regex hk hv =>
    refine hleaf (Regex.isPattern_of_read ?_ hv) trivial rfl hc.1.comment fun _ => trivial
    rw [← hk]
    exact hc.1.spells (by rw [hk]; decide)
  | boolean hk => exact hleaf trivial trivial rfl hc.1.comment fun _ => trivial
  | star hk => exact hleaf trivial trivial rfl hc.1.comment fun _ => trivial
  | list hk _ ih =>
    obtain ⟨hwf, hnormal, hcalls⟩ := Expr.parsedList (ih hc.advance)
    exact ⟨⟨hwf, hnormal, hcalls, hc.1.comment⟩, fun _ => trivial⟩
  | lambda hk hcolon _ ih =>
    have he : Expr.Parsed _ := ih hc.advance.advance
    exact ⟨⟨he.wellFormed, he.normal, he.calls, hc.1.comment⟩, fun _ => trivial⟩
  | paren hk _ hclose ih =>
    have he : Expr.Parsed _ := ih hc.advance
    exact ⟨he.inParens hc.1.comment, Expr.whole_inParens _ _⟩
  | function hk hp _ ih =>
    obtain ⟨hwf, hnormal, hcalls⟩ := Expr.parsedList (ih hc.advance.advance)
    exact ⟨⟨⟨rfl, hword hc hk, hwf⟩, hnormal, hcalls, hc.1.comment⟩, fun _ => trivial⟩
  | name hk hp hm => exact hleaf (hword hc hk) trivial rfl hc.1.comment fun _ => trivial
  | @chain c c' b cs hk _ ih =>
    obtain ⟨hwf, hnormal, hcalls⟩ := Call.parsedList (ih hc.advance)
    refine ⟨⟨⟨?_, hwf⟩, hnormal, hcalls, hc.1.comment⟩, fun _ => trivial⟩
    rcases hk with ⟨hk, -, hne⟩ | hk
    · exact .inl ⟨hword hc hk, hne⟩
    · refine .inr ((hc.1.spells ?_).keyword hk)
      rcases hk with hk | hk <;> rw [hk] <;> decide
  | stop => exact fun hl hmin _ => ⟨hl, hmin⟩
  | @fold c c₁ c₂ c' b min op l r₀ r e hop hmin hr₀ hr _ ih₁ ih₂ ih₃ =>
    intro hl _ hnext
    -- an operand fits everywhere, so the climb on the right may start from it
    obtain ⟨hr₀', hwhole⟩ := ih₁ hc.advance
    have hc₁ := hr₀.scanned hc.advance
    obtain ⟨hr', hfits⟩ := ih₂ hc₁ hr₀' (hwhole _) fun op' _ => hwhole _
    refine ih₃ (hr.scanned hc₁) (hl.fold hr' hc.1.comment (hnext op hop) hfits) (fun _ => hmin) ?_
    -- the climb on the right took all operators above `op`; what it stopped at may have `op` on
    -- its left
    intro op' hop' _
    exact Nat.le_of_lt_succ (hr.climb_stops op' hop')
  | expression hl _ ih₁ ih₂ =>
    obtain ⟨hl', hwhole⟩ := ih₁ hc
    exact (ih₂ (hl.scanned hc) hl' (hwhole _) fun op _ => hwhole _).1
  | noArguments => simp [Goal.Parsed]
  | arguments _ _ ih => exact ih hc
  | last _ _ _ ih =>
    have he : Expr.Parsed _ := ih hc
    simpa [Goal.Parsed] using he
  | more he _ _ ih₁ ih₂ =>
    have h₁ : Expr.Parsed _ := ih₁ hc
    have h₂ := ih₂ (he.scanned hc).advance
    intro x hx
    rcases List.mem_cons.1 hx with rfl | hx
    · exact h₁
    · exact h₂ x hx
  | noCalls => simp [Goal.Parsed]
  | @call c c₁ c' b kind es cs hm hn hp hes _ ih₁ ih₂ =>
    have hargs := ih₁ hc.advance.advance.advance
    have hcs := ih₂ (hes.scanned hc.advance.advance.advance)
    intro x hx
    rcases List.mem_cons.1 hx with rfl | hx
    · refine ⟨?_, hword hc.advance hn, hc.1.comment, hargs⟩
      rintro rfl
      have := CallKind.kind?_of_ofKind? hm
      cases this
    · exact hcs x hx

/-! ## Programs -/

namespace Statement

/-- What is true of a statement that was read. -/
def Parsed : Statement → Prop
  | declare o name (.value e) =>
    Comment.Trimmed o.comment ∧ Spells .identifier name.name.toList ∧ e.Parsed
  | declare o name (.template _) => Comment.Trimmed o.comment ∧ Spells .identifier name.name.toList
  | expr e => e.Parsed

theorem Parsed.comment {s : Statement} (h : s.Parsed) : Comment.Trimmed s.origin.comment := by
  match s with
  | .declare _ _ (.value _) => exact h.1
  | .declare _ _ (.template _) => exact h.1
  | .expr e => exact Expr.LeadTrimmed.comment (Expr.Parsed.leading h)

/-- A statement that was read can be written again. -/
theorem Parsed.wellFormed {s : Statement} (h : s.Parsed) : s.WellFormed Number.IsLegal := by
  refine ⟨h.comment.hasLines, ?_⟩
  match s with
  | .declare _ _ (.value _) => exact ⟨h.2.1, h.2.2.wellFormed⟩
  | .declare _ _ (.template _) => exact h.2
  | .expr e => exact Expr.Parsed.wellFormed h

/-- A statement that was read comes back with the same marks for parentheses. -/
theorem Parsed.reread_eq {s : Statement} (h : s.Parsed) :
    s.mapExpr Expr.reread = s.mapExpr (Expr.mapOrigins .forget .reread) := by
  match s with
  | .declare _ _ (.value _) => rw [mapExpr, mapExpr, h.2.2.normal.reread_eq]
  | .declare _ _ (.template _) => rfl
  | .expr e => rw [mapExpr, mapExpr, (Expr.Parsed.normal h).reread_eq]

end Statement

/-- What is true of a program that was read. -/
structure Program.Parsed (p : Program) : Prop where
  dbrps : ∀ d ∈ p.dbrps, Comment.Trimmed d.origin.comment
  statements : ∀ s ∈ p.statements, s.Parsed
  trailing : Comment.Trimmed p.trailingComment

theorem Program.Parsed.wellFormed {p : Program} (h : p.Parsed) : p.WellFormed Number.IsLegal :=
  ⟨fun d hd => (h.dbrps d hd).hasLines, fun s hs => (h.statements s hs).wellFormed,
    h.trailing.hasLines⟩

/-- A statement that is derived from known tokens is one that was read. -/
theorem DerivesStatement.parsed {s : Statement} {c c' : Cursor} (h : DerivesStatement s c c')
    (hc : c.Scanned) : s.Parsed := by
  have hname : c.advance.current.kind = .identifier →
      Spells .identifier c.advance.current.text.toList := by
    intro hk
    rw [← hk]
    exact hc.advance.1.spells (by rw [hk]; decide)
  cases h with
  | expr _ he => exact he.parsed hc
  | value _ hn _ he => exact ⟨hc.1.comment, hname hn, he.parsed hc.advance.advance.advance⟩
  | template _ hn _ => exact ⟨hc.1.comment, hname hn⟩

/-- All statements of a program are. -/
theorem DerivesStatements.parsed {ss : List Statement} {c c' : Cursor}
    (h : DerivesStatements ss c c') (hc : c.Scanned) : (∀ s ∈ ss, s.Parsed) ∧ c'.Scanned := by
  induction h with
  | nil => exact ⟨by simp, hc⟩
  | cons _ hs _ ih =>
    obtain ⟨ts, ht, -⟩ := hs.account
    obtain ⟨ih, hc'⟩ := ih (ht.scanned hc)
    have hs := hs.parsed hc
    refine ⟨fun x hx => ?_, hc'⟩
    rcases List.mem_cons.1 hx with rfl | hx
    · exact hs
    · exact ih x hx

/-- What is true of every program that was read from a source. -/
theorem Program.parsed {source : String} {p : Program} (h : parse source = .ok p) : p.Parsed := by
  obtain ⟨c₁, c₂, hds, hss, htrailing, -⟩ := derives_program h
  obtain ⟨hdbrps, hc₁⟩ := hds.parsed (Cursor.scanned_tokenize source)
  obtain ⟨hstatements, hc₂⟩ := hss.parsed hc₁
  exact ⟨hdbrps, hstatements, htrailing ▸ hc₂.1.comment⟩

end Tickscript
