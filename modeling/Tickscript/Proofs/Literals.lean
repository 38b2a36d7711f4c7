import Mathlib.Data.List.TakeWhile
import Tickscript.Literal.Quote
import Tickscript.Literal.Regex
import Tickscript.Proofs.ShortestDecimal
import Tickscript.Token.Lexer

/-!
# Literals read back

What is written for a value is scanned as one literal, whatever follows it, and reads as the value
again. A literal between quotes ends at the first quote that no backslash precedes, so a text that
ends there by itself ends there in front of anything else too (`Lexer.Closes`). A regex is written
as it was scanned, because the only characters that reading takes out of it are put back.
-/

namespace Tickscript

open Lexer (untilQuote? untilTriple?)

/-! ## Closing marks -/

namespace Lexer

/-- The first quote that closes a literal is the end of the text. -/
def Closes (quote : Char) (body : List Char) : Prop := untilQuote? quote body = some (body, [])

/-- The first three quotes in a row are the end of the text. -/
def ClosesTriple (body : List Char) : Prop := untilTriple? body = some (body, [])

/-- Where a literal closes does not depend on what follows. -/
theorem untilQuote?_append {quote : Char} {cs body rest : List Char}
    (h : untilQuote? quote cs = some (body, rest)) (more : List Char) :
    untilQuote? quote (cs ++ more) = some (body, rest ++ more) := by
  fun_induction untilQuote? quote cs generalizing body rest with
  | case1 => cases h
  | case2 => cases h
  | case3 hc =>
    cases h
    cases more with
    | nil => simp [untilQuote?, hc]
    | cons d more => simp [untilQuote?, hc]
  | case4 => cases h
  | case5 d cs ih =>
    obtain ⟨⟨body', rest'⟩, hb, heq⟩ := Option.map_eq_some_iff.1 h
    cases heq
    simp [untilQuote?, ih hb]
  | case6 d cs hc =>
    cases h
    simp [untilQuote?, hc]
  | case7 c d cs hc hq ih =>
    obtain ⟨⟨body', rest'⟩, hb, heq⟩ := Option.map_eq_some_iff.1 h
    cases heq
    have := ih hb
    simp only [List.cons_append] at this
    simp [untilQuote?, hc, hq, this]

/-- What is cut off at the closing quote closes there. -/
theorem closes_of_untilQuote? {quote : Char} {cs body rest : List Char}
    (h : untilQuote? quote cs = some (body, rest)) : Closes quote body := by
  unfold Closes
  fun_induction untilQuote? quote cs generalizing body rest with
  | case1 => cases h
  | case2 => cases h
  | case3 hc => cases h; simp [untilQuote?, hc]
  | case4 => cases h
  | case5 d cs ih =>
    obtain ⟨⟨body', rest'⟩, hb, heq⟩ := Option.map_eq_some_iff.1 h
    cases heq
    simp [untilQuote?, ih hb]
  | case6 d cs hc => cases h; simp [untilQuote?, hc]
  | case7 c d cs hc hq ih =>
    obtain ⟨⟨body', rest'⟩, hb, heq⟩ := Option.map_eq_some_iff.1 h
    cases heq
    have hbody := ih hb
    cases body' with
    | nil => cases hbody
    | cons e body' => simp [untilQuote?, hc, hq, hbody]

/-- A text that closes at its end is cut off whole, whatever follows. -/
theorem Closes.untilQuote? {quote : Char} {body : List Char} (h : Closes quote body)
    (rest : List Char) : untilQuote? quote (body ++ rest) = some (body, rest) :=
  untilQuote?_append h rest

/-- Characters that can stand between two quotes. A backslash takes the character behind it with it,
and any other character but the quote stands for itself. -/
inductive Inside (quote : Char) : List Char → Prop where
  | nil : Inside quote []
  | plain {c : Char} {cs : List Char} (hslash : c ≠ '\\') (hquote : c ≠ quote)
      (h : Inside quote cs) : Inside quote (c :: cs)
  | pair (c : Char) {cs : List Char} (h : Inside quote cs) : Inside quote ('\\' :: c :: cs)

/-- A literal closes at the first quote that nothing protects. -/
theorem Inside.untilQuote? {quote : Char} {body : List Char} (h : Inside quote body)
    (hquote : quote ≠ '\\') (rest : List Char) :
    untilQuote? quote (body ++ quote :: rest) = some (body ++ [quote], rest) := by
  induction h with
  | nil => cases rest <;> simp [Lexer.untilQuote?, hquote]
  | @plain c cs hslash hother _ ih =>
    obtain ⟨d, ds, hd⟩ : ∃ d ds, cs ++ quote :: rest = d :: ds := by
      cases cs with
      | nil => exact ⟨quote, rest, rfl⟩
      | cons d cs => exact ⟨d, cs ++ quote :: rest, rfl⟩
    rw [hd] at ih
    rw [List.cons_append, hd, Lexer.untilQuote?, if_neg hslash, if_neg hother, ih]
    rfl
  | pair c _ ih => simp [Lexer.untilQuote?, ih]

theorem untilTriple?_cons (c : Char) (cs : List Char) :
    untilTriple? (c :: cs) =
      if Quote.triple <+: c :: cs then some (Quote.triple, (c :: cs).drop 3)
      else (untilTriple? cs).map fun (body, rest) => (c :: body, rest) := by
  split
  · next h =>
    obtain ⟨rest, h⟩ := h
    rw [← h]
    rfl
  · next h =>
    rw [untilTriple?]
    rintro cs' rfl rfl
    exact h ⟨cs', rfl⟩

/-- What is cut off at three quotes ends in them. -/
theorem untilTriple?_eq_append {cs body rest : List Char}
    (h : untilTriple? cs = some (body, rest)) : ∃ v, body = v ++ Quote.triple := by
  induction cs generalizing body rest with
  | nil => cases h
  | cons c cs ih =>
    rw [untilTriple?_cons] at h
    split at h
    · cases h
      exact ⟨[], rfl⟩
    · obtain ⟨⟨body', rest'⟩, hb, heq⟩ := Option.map_eq_some_iff.1 h
      cases heq
      obtain ⟨v, rfl⟩ := ih hb
      exact ⟨c :: v, rfl⟩

/-- Where a verbatim string closes does not depend on what follows. -/
theorem untilTriple?_append {cs body rest : List Char}
    (h : untilTriple? cs = some (body, rest)) (more : List Char) :
    untilTriple? (cs ++ more) = some (body, rest ++ more) := by
  induction cs generalizing body rest with
  | nil => cases h
  | cons c cs ih =>
    have hlen : 3 ≤ (c :: cs).length := by
      obtain ⟨v, rfl⟩ := untilTriple?_eq_append h
      rw [eq_append_of_untilTriple? h]
      simp only [Quote.triple, List.length_append, List.length_cons]
      omega
    rw [List.cons_append, untilTriple?_cons]
    rw [untilTriple?_cons] at h
    split at h
    · next hp =>
      cases h
      have hp' : Quote.triple <+: c :: (cs ++ more) :=
        hp.trans (List.prefix_append (c :: cs) more)
      rw [if_pos hp', ← List.cons_append, List.drop_append_of_le_length hlen]
    · next hp =>
      obtain ⟨⟨body', rest'⟩, hb, heq⟩ := Option.map_eq_some_iff.1 h
      cases heq
      have hp' : ¬ Quote.triple <+: c :: (cs ++ more) := fun hp' =>
        hp (List.prefix_of_prefix_length_le hp' (List.prefix_append (c :: cs) more) hlen)
      rw [if_neg hp', ih hb]
      rfl

/-- What is cut off at three quotes closes there. -/
theorem closesTriple_of_untilTriple? {cs body rest : List Char}
    (h : untilTriple? cs = some (body, rest)) : ClosesTriple body := by
  unfold ClosesTriple
  induction cs generalizing body rest with
  | nil => cases h
  | cons c cs ih =>
    rw [untilTriple?_cons] at h
    split at h
    · cases h
      rfl
    · next hp =>
      obtain ⟨⟨body', rest'⟩, hb, heq⟩ := Option.map_eq_some_iff.1 h
      cases heq
      have hp' : ¬ Quote.triple <+: c :: body' := fun hp' =>
        hp (hp'.trans ⟨rest, by rw [eq_append_of_untilTriple? hb]; rfl⟩)
      rw [untilTriple?_cons, if_neg hp', ih hb]
      rfl

/-- A verbatim text that closes at its end is cut off whole, whatever follows. -/
theorem ClosesTriple.untilTriple? {body : List Char} (h : ClosesTriple body) (rest : List Char) :
    untilTriple? (body ++ rest) = some (body, rest) :=
  untilTriple?_append h rest

/-- The marks around a verbatim string close where they should if the string has no three quotes in
a row and does not end in one. -/
theorem closesTriple_iff (v : List Char) :
    ClosesTriple (v ++ Quote.triple) ↔ ¬ Quote.triple <:+: v ∧ v.getLast? ≠ some '\'' := by
  unfold ClosesTriple
  induction v with
  | nil => simp [Quote.triple, Lexer.untilTriple?]
  | cons c v ih =>
    rw [List.cons_append, untilTriple?_cons, List.infix_cons_iff]
    have hin : Quote.triple <+: c :: v → Quote.triple <+: c :: (v ++ Quote.triple) := fun h =>
      h.trans (List.prefix_append (c :: v) Quote.triple)
    split
    · next hp =>
      -- quotes of the string run into the mark, unless three of them stand in the string itself
      have hlen : ¬ some (Quote.triple, (c :: (v ++ Quote.triple)).drop 3) =
          some (c :: (v ++ Quote.triple), []) := by
        intro h
        have := congrArg (fun o => (o.map fun x => x.1.length)) h
        simp [Quote.triple] at this
      refine iff_of_false hlen ?_
      rintro ⟨hno, hlast⟩
      match v with
      | [] => exact hlast (by simp [(List.cons_prefix_cons.1 hp).1.symm])
      | [d] =>
        have hd := (List.cons_prefix_cons.1 (List.cons_prefix_cons.1 hp).2).1
        exact hlast (by simp [hd.symm])
      | d :: e :: v =>
        simp only [Quote.triple, List.cons_append, List.cons_prefix_cons, List.nil_prefix,
          and_true] at hp hno
        exact hno (.inl hp)
    · next hp =>
      have hlast : (c :: v).getLast? ≠ some '\'' ↔ v.getLast? ≠ some '\'' := by
        match v with
        | [] =>
          have hc : c ≠ '\'' := fun h => hp (by simp [h, Quote.triple])
          simp [hc]
        | d :: v => simp [List.getLast?_cons_cons]
      have hmap : (untilTriple? (v ++ Quote.triple)).map (fun (body, rest) => (c :: body, rest)) =
          some (c :: (v ++ Quote.triple), []) ↔
          untilTriple? (v ++ Quote.triple) = some (v ++ Quote.triple, []) := by
        cases untilTriple? (v ++ Quote.triple) <;> simp [Prod.ext_iff]
      rw [hmap, ih, hlast]
      have hno : ¬ Quote.triple <+: c :: v := fun h => hp (hin h)
      simp [hno]

end Lexer

/-! ## Strings and references -/

namespace Quote

/-- Taking the escapes off again gives the value back. -/
theorem unescape_escape (quote : Char) (v : List Char) :
    unescape quote (escape quote v) = v := by
  induction v with
  | nil => rfl
  | cons c v ih =>
    rw [escape]
    split
    · next h => simp only [unescape, if_pos, h, ih]
    · next h =>
      simp only [Bool.or_eq_true, decide_eq_true_eq, not_or] at h
      cases he : escape quote v with
      | nil => rw [he] at ih; simpa [unescape] using ih
      | cons d ds =>
        rw [he] at ih
        rw [unescape, if_neg h.2, ih]

/-- An escaped value can stand between quotes: each quote in it has a backslash of its own. -/
theorem inside_escape (quote : Char) (v : List Char) : Lexer.Inside quote (escape quote v) := by
  induction v with
  | nil => exact .nil
  | cons c v ih =>
    rw [escape]
    split
    · exact .pair c ih
    · next h =>
      simp only [Bool.or_eq_true, decide_eq_true_eq, not_or] at h
      exact .plain h.2 h.1 ih

/-- A literal that is written closes at the quote that was written last. -/
theorem closes_escape {quote : Char} (hq : quote ≠ '\\') (v : List Char) :
    Lexer.Closes quote (escape quote v ++ [quote]) :=
  (inside_escape quote v).untilQuote? hq []

/-- What stands between two marks is found between them. -/
theorem between?_enclosed (mark inside : List Char) :
    between? mark (mark ++ inside ++ mark) = some inside := by
  rw [between?, if_pos ⟨by simp; omega, ⟨inside ++ mark, by simp⟩, ⟨mark ++ inside, rfl⟩⟩]
  simp [show mark.length + (inside.length + mark.length) - 2 * mark.length = inside.length by omega]

/-- A quoted literal never looks like a verbatim one: a quote in it has a backslash before it. -/
theorem not_triple_prefix_string (v : List Char) :
    ¬ triple <+: '\'' :: escape '\'' v ++ ['\''] := by
  intro h
  cases v with
  | nil => simp [triple, escape] at h
  | cons c v =>
    rw [escape] at h
    split at h
    · simp [triple] at h
    · next hc =>
      simp only [Bool.or_eq_true, decide_eq_true_eq, not_or] at hc
      simp only [triple, List.cons_append, List.cons_prefix_cons] at h
      exact hc.1 h.2.1.symm

/-- A string is read back from its literal. -/
theorem readString_string (v : String) : readString (string v) = .ok v := by
  have htriple : between? triple (string v).toList = none := by
    rw [between?, if_neg]
    rintro ⟨-, h, -⟩
    exact not_triple_prefix_string v.toList (by simpa [string, enclose] using h)
  have hone : between? ['\''] (string v).toList = some (escape '\'' v.toList) := by
    simpa [string, enclose] using between?_enclosed ['\''] (escape '\'' v.toList)
  rw [readString, htriple]
  simp only [hone]
  rw [unescape_escape, String.ofList_toList]

/-- So it is from a verbatim literal, which has no escapes. -/
theorem readString_verbatim (v : String) : readString (verbatim v) = .ok v := by
  have h : between? triple (verbatim v).toList = some v.toList := by
    simpa [verbatim] using between?_enclosed triple v.toList
  rw [readString, h]
  simp

/-- A name is read back from its reference. -/
theorem readReference_reference (v : String) : readReference (reference v) = .ok v := by
  have h : between? ['"'] (reference v).toList = some (escape '"' v.toList) := by
    simpa [reference, enclose] using between?_enclosed ['"'] (escape '"' v.toList)
  rw [readReference, h]
  simp only
  rw [unescape_escape, String.ofList_toList]

/-- The literal for a string is not taken for a verbatim one. -/
theorem triple_isPrefixOf_string (v : String) : triple.isPrefixOf (string v).toList = false := by
  rw [Bool.eq_false_iff, ne_eq, List.isPrefixOf_iff_prefix]
  simpa [string, enclose] using not_triple_prefix_string v.toList

theorem triple_isPrefixOf_verbatim (v : String) : triple.isPrefixOf (verbatim v).toList = true := by
  rw [List.isPrefixOf_iff_prefix, verbatim, String.toList_ofList, List.append_assoc]
  exact List.prefix_append ..

end Quote

/-! ## Regexes -/

namespace Regex

/-- The text of a regex literal in a source: it closes, and it does not look like a comment. -/
structure IsLiteral (body : List Char) : Prop where
  closes : Lexer.Closes '/' (body ++ ['/'])
  noComment : body.head? ≠ some '*'
  nonempty : body ≠ []

/-- Where a regex closes at its end, its pattern starts with no slash. -/
theorem head?_ne_of_closes {cs : List Char} (h : Lexer.Closes '/' (cs ++ ['/'])) :
    cs.head? ≠ some '/' := by
  rintro hhead
  obtain ⟨cs, rfl⟩ : ∃ t, cs = '/' :: t := by
    cases cs with
    | nil => cases hhead
    | cons c cs => cases hhead; exact ⟨cs, rfl⟩
  cases cs with
  | nil => simp [Lexer.Closes, untilQuote?] at h
  | cons d cs => simp [Lexer.Closes, untilQuote?] at h

/-- A character that no slash follows is not changed by unescaping. -/
theorem unescape_cons {d : Char} {cs : List Char} (h : cs.head? ≠ some '/') :
    unescape (d :: cs) = d :: unescape cs := by
  cases cs with
  | nil => rfl
  | cons e cs =>
    rw [unescape, if_neg]
    rintro ⟨-, rfl⟩
    exact h rfl

/-- Reading takes a backslash off every slash, and writing puts it back. -/
theorem escape_unescape {body : List Char} (h : Lexer.Closes '/' (body ++ ['/'])) :
    escape (unescape body) = body := by
  match body with
  | [] => rfl
  | [c] =>
    have hc : c ≠ '/' := fun hc => head?_ne_of_closes h (by rw [hc]; rfl)
    simp [unescape, escape, hc]
  | c :: d :: cs =>
    have hc : c ≠ '/' := fun hc => head?_ne_of_closes h (by rw [hc]; rfl)
    simp only [Lexer.Closes, List.cons_append, untilQuote?] at h
    split at h
    · next hback =>
      -- a backslash and what it protects
      obtain ⟨⟨body, rest⟩, hb, heq⟩ := Option.map_eq_some_iff.1 h
      simp only [Prod.mk.injEq, List.cons.injEq, true_and] at heq
      obtain ⟨rfl, rfl⟩ := heq
      have ih := escape_unescape hb
      subst hback
      by_cases hd : d = '/'
      · subst hd
        simp [unescape, escape, ih]
      · rw [unescape_cons (by simpa using hd), unescape_cons (head?_ne_of_closes hb)]
        simp [escape, hd, ih]
    · obtain ⟨⟨body, rest⟩, hb, heq⟩ := Option.map_eq_some_iff.1 h
      simp only [Prod.mk.injEq, List.cons.injEq, true_and] at heq
      obtain ⟨rfl, rfl⟩ := heq
      have ih : escape (unescape (d :: cs)) = d :: cs := escape_unescape hb
      rw [unescape_cons (@head?_ne_of_closes (d :: cs) hb)]
      simp [escape, hc, ih]

/-- An escaped pattern starts with no slash. -/
theorem head?_escape_ne (cs : List Char) : (escape cs).head? ≠ some '/' := by
  cases cs with
  | nil => simp [escape]
  | cons c cs =>
    rw [escape]
    split
    · simp
    · next hc => simpa using hc

/-- Writing puts a backslash before every slash, and reading takes it off. -/
theorem unescape_escape (cs : List Char) : unescape (escape cs) = cs := by
  induction cs with
  | nil => rfl
  | cons c cs ih =>
    rw [escape]
    split
    · next hc => simp [unescape, ih, hc]
    · -- if this is a backslash, what follows is still no bare slash
      rw [unescape_cons (head?_escape_ne cs), ih]

/-- The inside of a regex is what stands between its slashes. -/
theorem inside?_enclosed (body : List Char) : inside? ('/' :: body ++ ['/']) = some body := by
  simp [inside?]

variable [Regex.Engine]

/-- Compiling gives the pattern itself back, if there is anything to give. -/
theorem compile_eq_ok_iff {pattern v : String} :
    compile pattern = .ok v ↔ Engine.compile pattern = .ok () ∧ pattern = v := by
  unfold compile
  split
  · next h => simp [h]
  · next h => simp [h]

/-- A regex is read by taking the escapes off its inside and compiling what is left. -/
theorem read_enclosed (body : List Char) :
    read (String.ofList ('/' :: body ++ ['/'])) = compile (String.ofList (unescape body)) := by
  simp only [read, String.toList_ofList, inside?_enclosed]

/-- From its literal a pattern is read as it was written, so it only has to compile. -/
theorem read_literal (pattern : String) : read (literal pattern) = compile pattern := by
  rw [literal, read_enclosed, unescape_escape, String.ofList_toList]

/-- The text of a regex literal that is read is the text that is written for its pattern. -/
theorem literal_of_read {body : List Char} {pattern : String} (hbody : IsLiteral body)
    (h : read (String.ofList ('/' :: body ++ ['/'])) = .ok pattern) :
    (literal pattern).toList = '/' :: body ++ ['/'] := by
  rw [read_enclosed] at h
  obtain ⟨-, rfl⟩ := compile_eq_ok_iff.1 h
  simp [literal, escape_unescape hbody.closes]

end Regex

/-! ## Numbers -/

/-- A whole number is read back from its literal, if it fits. -/
theorem Number.read_render_int {n : Nat} (h : n ≤ maxInt) :
    read (render (.int n)) = .ok (.int n) := by
  have htext : (render (.int n)).toList = Nat.toDigits 10 n := by simp [render]
  have hwhole : IsWhole (render (.int n)).toList := by
    rw [htext]
    exact ⟨Nat.toDigits_ne_nil, Text.isDigit_toDigits⟩
  rw [read_of_isWhole hwhole, htext, Text.decimal_toDigits, if_pos h]

/-! ## Durations -/

namespace Duration

/-- No unit starts like a number. -/
theorem dropWhile_name {u : TimeUnit} (h : u ∈ units) : u.name.dropWhile isMagnitude = u.name := by
  revert u
  decide

/-- The names of units differ. -/
theorem find?_name {u : TimeUnit} (h : u ∈ units) :
    units.find? (fun v => v.name == u.name) = some u := by
  revert u
  decide

/-- Digits and a unit are split where the digits end. -/
theorem split?_digits {digits : List Char} {u : TimeUnit} (hu : u ∈ units)
    (hdigits : ∀ c ∈ digits, c.isDigit = true) (hne : digits ≠ []) :
    split? (digits ++ u.name) = some (digits, u) := by
  have hmag : ∀ c ∈ digits, isMagnitude c = true :=
    fun c hc => isMagnitude_of_isDigit (hdigits c hc)
  have hdrop : (digits ++ u.name).dropWhile isMagnitude = u.name := by
    rw [List.dropWhile_append_of_pos hmag, dropWhile_name hu]
  have htake : (digits ++ u.name).takeWhile isMagnitude = digits := by
    have h := List.takeWhile_append_dropWhile (p := isMagnitude) (l := digits ++ u.name)
    rw [hdrop] at h
    exact List.append_cancel_right h
  unfold split?
  simp only [htake, hdrop, find?_name hu]
  simp [hne]

/-- Durations are cut between the last digit or point and a unit. -/
theorem eq_append_of_split? {cs magnitude : List Char} {u : TimeUnit}
    (h : split? cs = some (magnitude, u)) :
    cs = magnitude ++ u.name ∧ u ∈ units ∧ magnitude ≠ [] ∧
      ∀ c ∈ magnitude, isMagnitude c = true := by
  unfold split? at h
  simp only at h
  split at h
  · cases h
  · next hne =>
    split at h
    · next v hv =>
      cases h
      have hname : u.name = cs.dropWhile isMagnitude := by simpa using List.find?_some hv
      refine ⟨?_, List.mem_of_find?_eq_some hv, by simpa using hne, ?_⟩
      · rw [hname, List.takeWhile_append_dropWhile]
      · intro c hc
        exact List.mem_takeWhile_imp hc
    · cases h

/-- A magnitude consists of digits exactly if there is no point in it. -/
theorem all_isDigit_iff {magnitude : List Char} (h : ∀ c ∈ magnitude, isMagnitude c = true) :
    magnitude.all Char.isDigit = true ↔ '.' ∉ magnitude := by
  rw [List.all_eq_true]
  constructor
  · intro hall hdot
    exact absurd (hall _ hdot) (by decide)
  · intro hdot c hc
    have hmagnitude := h c hc
    simp only [isMagnitude, Bool.or_eq_true, beq_iff_eq] at hmagnitude
    rcases hmagnitude with hdigit | rfl
    · exact hdigit
    · exact absurd hc hdot

/-- A duration is refused for a point in its magnitude, or for being too long. -/
theorem read_eq_ok_iff {text : String} {magnitude : List Char} {u : TimeUnit}
    (h : split? text.toList = some (magnitude, u)) (v : Nat) :
    read text = .ok v ↔ '.' ∉ magnitude ∧ Text.decimal magnitude * u.micros < limit ∧
      v = Text.decimal magnitude * u.micros := by
  have hdigits := all_isDigit_iff (eq_append_of_split? h).2.2.2
  simp only [read, h, Bool.and_eq_true, decide_eq_true_eq, hdigits]
  split
  · next hok =>
    rw [Except.ok.injEq]
    exact ⟨fun hv => ⟨hok.1, hok.2, hv.symm⟩, fun hv => hv.2.2.symm⟩
  · next hno => exact iff_of_false (by simp) fun hv => hno ⟨hv.1, hv.2.1⟩

/-- What is written for a duration is a whole number of some unit. -/
theorem render_eq (micros : Nat) : ∃ u ∈ units, ∃ n,
    (render micros).toList = Nat.toDigits 10 n ++ u.name ∧ n * u.micros = micros := by
  unfold render
  split
  · next h => exact ⟨⟨['s'], 1000000⟩, by decide, 0, by rfl, by simp [h]⟩
  · split
    · next u hu =>
      have hdvd : micros % u.micros = 0 := by simpa using List.find?_some hu
      exact ⟨u, List.mem_of_find?_eq_some hu, micros / u.micros, by simp,
        Nat.div_mul_cancel (Nat.dvd_of_mod_eq_zero hdvd)⟩
    · exact ⟨⟨['u'], 1⟩, by decide, micros, by simp, by simp⟩

/-- What is written for a duration is read as the duration if a literal can stand for it, and
refused otherwise. -/
theorem read_render_eq (micros : Nat) : read (render micros) =
    if micros < limit then .ok micros else .error (.invalidDuration (render micros)) := by
  obtain ⟨u, hu, n, htext, hvalue⟩ := render_eq micros
  have hall : (Nat.toDigits 10 n).all Char.isDigit = true :=
    List.all_eq_true.2 Text.isDigit_toDigits
  rw [read, htext, split?_digits hu Text.isDigit_toDigits Nat.toDigits_ne_nil]
  simp only [Text.decimal_toDigits, hvalue, hall, Bool.true_and, decide_eq_true_eq]

/-- A duration is read back from its literal. -/
theorem read_render {micros : Nat} (h : micros < limit) : read (render micros) = .ok micros := by
  rw [read_render_eq, if_pos h]

end Duration

end Tickscript
