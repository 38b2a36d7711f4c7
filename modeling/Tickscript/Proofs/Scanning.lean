import Mathlib.Data.List.TakeWhile
import Tickscript.Proofs.Literals

/-!
# Scanning one token

A text that spells a token (`Lexer.Spells`) is scanned as this token, whatever follows, as long as
what follows starts with a character that keeps apart from it (`Lexer.keepsApart`): a letter would
go on with a name, and an equals sign with some operators. In the same way a run of blanks and line
comments in front of a token is split off as it stands (`Trivia.split_formed`).

For the other direction, what a scanned name, string or regex looks like is read off the scanner.
-/

namespace Tickscript

/-! ## Classes of characters -/

/-- A code that is found in ranges is in one of them. -/
theorem Text.Range.mem_of_anyContains {rs : List Range} {n : Nat} (h : anyContains rs n = true) :
    ∃ r ∈ rs, r.first ≤ n ∧ n ≤ r.last := by
  induction rs with
  | nil => cases h
  | cons r rs ih =>
    rw [anyContains] at h
    split at h
    · cases h
    · split at h
      · exact ⟨r, by simp, by omega, by omega⟩
      · obtain ⟨r', hr', hn⟩ := ih h
        exact ⟨r', by simp [hr'], hn⟩

namespace Lexer

/-- No blank stands in a name. -/
theorem isNamePart_of_isBlank {c : Char} (h : Text.isBlank c = true) : isNamePart c = false := by
  obtain ⟨r, hr, hlo, hhi⟩ := Text.Range.mem_of_anyContains h
  have htable : ∀ r ∈ Text.whiteSpace, ∀ k < r.last + 1 - r.first,
      Text.Range.anyContains Text.alphabetic (r.first + k) = false ∧
        Text.Range.anyContains Text.numeric (r.first + k) = false ∧ r.first + k ≠ 95 := by
    decide +kernel
  obtain ⟨h₁, h₂, h₃⟩ := htable r hr (c.toNat - r.first) (by omega)
  rw [Nat.add_sub_cancel' hlo] at h₁ h₂ h₃
  have hunder : c ≠ '_' := fun hc => h₃ (by rw [hc]; rfl)
  simp [isNamePart, Text.isLetterOrDigit, Text.isLetter, h₁, h₂, hunder]

/-- There are ten digits. -/
theorem isDigit_cases {c : Char} (h : c.isDigit = true) :
    c ∈ ['0', '1', '2', '3', '4', '5', '6', '7', '8', '9'] := by
  have hn : 48 ≤ c.toNat ∧ c.toNat ≤ 57 := by
    simp only [Char.isDigit, Bool.and_eq_true, decide_eq_true_eq] at h
    exact ⟨h.1, h.2⟩
  rw [← Char.ofNat_toNat c]
  obtain ⟨hlo, hhi⟩ := hn
  generalize c.toNat = n at *
  interval_cases n <;> decide

/-- What no character of a list has, none of its members has. -/
theorem eq_false_of_all {p : Char → Bool} {cs : List Char} (h : cs.all (fun c => !p c) = true)
    {c : Char} (hc : c ∈ cs) : p c = false := by
  simpa using List.all_eq_true.1 h c hc

/-- The characters that stand for themselves in front of a token. -/
def marks : List Char :=
  ['/', '|', '.', '@', ',', ':', '(', ')', '[', ']', '+', '-', '*', '%', '=', '!', '<', '>',
    '\'', '"']

/-- No name starts with a mark. -/
theorem isNameStart_of_mem_marks {c : Char} (h : c ∈ marks) : isNameStart c = false :=
  eq_false_of_all (by decide +kernel) h

/-- No mark is a digit. -/
theorem isDigit_of_mem_marks {c : Char} (h : c ∈ marks) : c.isDigit = false :=
  eq_false_of_all (by decide) h

/-- No mark is a blank. -/
theorem isBlank_of_mem_marks {c : Char} (h : c ∈ marks) : Text.isBlank c = false :=
  eq_false_of_all (by decide) h

theorem isNameStart_of_isDigit {c : Char} (h : c.isDigit = true) : isNameStart c = false :=
  eq_false_of_all (by decide +kernel) (isDigit_cases h)

theorem isBlank_of_isDigit {c : Char} (h : c.isDigit = true) : Text.isBlank c = false :=
  eq_false_of_all (by decide) (isDigit_cases h)

theorem isBlank_of_isNameStart {c : Char} (h : isNameStart c = true) : Text.isBlank c = false := by
  rw [Bool.eq_false_iff]
  intro hb
  have := isNamePart_of_isNameStart h
  rw [isNamePart_of_isBlank hb] at this
  cases this

/-- Only marks start an operator or a delimiter. -/
theorem symbol?_eq_none {c : Char} {next : Option Char} (h : c ∉ marks) :
    symbol? c next = none := by
  unfold symbol?
  split <;> first | rfl | (exfalso; revert h; decide)

/-! ## Texts of tokens -/

/-- The operators and delimiters that are no words, and how they are written. -/
def symbols : List (Kind × List Char) :=
  [(.slash, ['/']), (.pipe, ['|']), (.dot, ['.']), (.atSign, ['@']), (.comma, [',']),
    (.colon, [':']), (.lParen, ['(']), (.rParen, [')']), (.lBracket, ['[']), (.rBracket, [']']),
    (.plus, ['+']), (.minus, ['-']), (.star, ['*']), (.percent, ['%']), (.assign, ['=']),
    (.eqEq, ['=', '=']), (.regexEq, ['=', '~']), (.not, ['!']), (.notEq, ['!', '=']),
    (.regexNotEq, ['!', '~']), (.lt, ['<']), (.ltEq, ['<', '=']), (.gt, ['>']),
    (.gtEq, ['>', '='])]

/-- A text is one that is written for a token of some kind. The operator `not` is always written as
a symbol. -/
inductive Spells : Kind → List Char → Prop where
  | word {c : Char} {cs : List Char} {k : Kind} (hc : isNameStart c = true)
      (hcs : ∀ x ∈ cs, isNamePart x = true) (hk : wordKind (String.ofList (c :: cs)) = k)
      (hnot : k ≠ .not) : Spells k (c :: cs)
  | number {c : Char} {cs : List Char} (hc : c.isDigit = true)
      (hcs : ∀ x ∈ cs, isNumberPart x = true) (hk : Duration.split? (c :: cs) = none) :
      Spells .number (c :: cs)
  | duration {c : Char} {cs : List Char} (hc : c.isDigit = true)
      (hcs : ∀ x ∈ cs, isNumberPart x = true) (hk : (Duration.split? (c :: cs)).isSome = true) :
      Spells .duration (c :: cs)
  | string {body : List Char} (h : Closes '\'' body) : Spells .string ('\'' :: body)
  | verbatim {body : List Char} (h : ClosesTriple body) : Spells .string (Quote.triple ++ body)
  | reference {body : List Char} (h : Closes '"' body) : Spells .reference ('"' :: body)
  | regex {body : List Char} (h : Regex.IsLiteral body) : Spells .regex ('/' :: body ++ ['/'])
  | symbol {k : Kind} {cs : List Char} (h : (k, cs) ∈ symbols) : Spells k cs

/-- Whether a token of some kind ends before the character `c`. -/
def endsBefore (k : Kind) (c : Char) : Bool :=
  match k with
  | .identifier | .var | .dbrp | .stream | .batch | .lambda | .boolean | .and | .or => !isNamePart c
  | .number | .duration => !isNumberPart c
  | .string => c != '\''
  | .slash => c != '/' && c != '*'
  | .assign | .not | .lt | .gt => c != '=' && c != '~'
  | _ => true

/-- A token of some kind keeps apart from the text after it. -/
def KeepsApart (k : Kind) (after : List Char) : Prop := ∀ c ∈ after.head?, endsBefore k c = true

/-- Whether a token of some kind is found after one of the kind `last`: a slash is a regex or an
operator depending on that. -/
def mayFollow (last : Option Kind) (k : Kind) : Bool :=
  match k with
  | .regex => regexMayFollow last
  | .slash => !regexMayFollow last
  | _ => true

/-- What a scan takes ends where the property does. -/
theorem takeWhile_eq {α : Type} {p : α → Bool} {cs after : List α} (hcs : ∀ x ∈ cs, p x = true)
    (hafter : ∀ c ∈ after.head?, p c = false) :
    (cs ++ after).takeWhile p = cs ∧ (cs ++ after).dropWhile p = after := by
  rw [List.takeWhile_append_of_pos hcs, List.dropWhile_append_of_pos hcs]
  cases after with
  | nil => simp
  | cons c after => simp [hafter c (by simp)]

/-- A word is scanned up to the first character that is in no name. -/
theorem scan_word {c : Char} {cs after : List Char} (allowed : Bool) (hc : isNameStart c = true)
    (hcs : ∀ x ∈ cs, isNamePart x = true) (hafter : ∀ c ∈ after.head?, isNamePart c = false) :
    scan allowed (c :: cs ++ after) =
      .verbatim (wordKind (String.ofList (c :: cs))) (c :: cs) after := by
  have hmark : c ∉ marks := fun h => by rw [isNameStart_of_mem_marks h] at hc; cases hc
  have hne : c ≠ '/' ∧ c ≠ '\'' ∧ c ≠ '"' := by
    refine ⟨?_, ?_, ?_⟩ <;> (rintro rfl; exact hmark (by decide))
  obtain ⟨htake, hdrop⟩ := @takeWhile_eq _ isNamePart (c :: cs) after
    (by simpa [isNamePart_of_isNameStart hc] using hcs) hafter
  simp only [List.cons_append] at htake hdrop ⊢
  simp only [scan, hne.1, hne.2.1, hne.2.2, false_and, if_false, symbol?_eq_none hmark, hc, if_true,
    word, htake, hdrop]

/-- What starts with a digit is scanned up to the first character that is in no number. -/
theorem scan_quantity {c : Char} {cs after : List Char} (allowed : Bool) (hc : c.isDigit = true)
    (hcs : ∀ x ∈ cs, isNumberPart x = true) (hafter : ∀ c ∈ after.head?, isNumberPart c = false) :
    scan allowed (c :: cs ++ after) =
      .verbatim (if (Duration.split? (c :: cs)).isSome then .duration else .number) (c :: cs)
        after := by
  have hmark : c ∉ marks := fun h => by rw [isDigit_of_mem_marks h] at hc; cases hc
  have hne : c ≠ '/' ∧ c ≠ '\'' ∧ c ≠ '"' := by
    refine ⟨?_, ?_, ?_⟩ <;> (rintro rfl; exact hmark (by decide))
  obtain ⟨htake, hdrop⟩ := @takeWhile_eq _ isNumberPart (c :: cs) after
    (by simpa [isNumberPart_of_isDigit hc] using hcs) hafter
  simp only [List.cons_append] at htake hdrop ⊢
  simp only [scan, hne.1, hne.2.1, hne.2.2, false_and, if_false, symbol?_eq_none hmark,
    isNameStart_of_isDigit hc, hc, if_true, quantity, htake, hdrop]
  rfl

/-- A closed literal is scanned up to its quote. -/
theorem quotedLiteral_eq {k : Kind} {what : String} {quote : Char} {body after : List Char}
    (h : Closes quote body) :
    quotedLiteral k what quote (quote :: body ++ after) = .verbatim k (quote :: body) after := by
  simp [quotedLiteral, h.untilQuote? after]

/-- A word is a keyword or an identifier. -/
theorem wordKind_cases (w : String) : wordKind w ∈
    [.var, .dbrp, .stream, .batch, .lambda, .boolean, .and, .or, .not, .identifier] := by
  unfold wordKind
  split <;> decide

/-- A character that a word other than `not` ends before is in no name. -/
theorem isNamePart_of_endsBefore {w : String} {c : Char} (hnot : wordKind w ≠ .not)
    (h : endsBefore (wordKind w) c = true) : isNamePart c = false := by
  have hcases := wordKind_cases w
  generalize wordKind w = k at *
  simp only [List.mem_cons, List.not_mem_nil, or_false] at hcases
  rcases hcases with rfl | rfl | rfl | rfl | rfl | rfl | rfl | rfl | rfl | rfl <;>
    simp_all [endsBefore]

theorem Closes.ne_nil {quote : Char} {body : List Char} (h : Closes quote body) : body ≠ [] := by
  rintro rfl
  cases h

/-- A quoted string does not start like a verbatim one. -/
theorem take_two_of_closes {body after : List Char} (h : Closes '\'' body)
    (hafter : ∀ c ∈ after.head?, c ≠ '\'') : (body ++ after).take 2 ≠ ['\'', '\''] := by
  intro htake
  match body with
  | [] => exact h.ne_nil rfl
  | [c] =>
    cases after with
    | nil => simp at htake
    | cons d after =>
      simp only [List.cons_append, List.nil_append, List.take_succ_cons, List.take_zero,
        List.cons.injEq, and_true] at htake
      exact hafter d (by simp) htake.2
  | c :: d :: body =>
    simp only [List.cons_append, List.take_succ_cons, List.take_zero, List.cons.injEq,
      and_true] at htake
    obtain ⟨rfl, rfl⟩ := htake
    simp [Closes, untilQuote?] at h

/-- A word is no literal, unless it is a truth value. -/
theorem wordKind_ne {k : Kind} (hk : k ∈ [.number, .duration, .string, .reference, .regex])
    (w : String) : wordKind w ≠ k := by
  rintro rfl
  revert hk
  unfold wordKind
  split <;> decide

/-- There are two ways to write a string. -/
theorem Spells.string_inv {cs : List Char} (h : Spells .string cs) :
    (∃ body, cs = '\'' :: body ∧ Closes '\'' body) ∨
      ∃ body, cs = Quote.triple ++ body ∧ ClosesTriple body := by
  cases h with
  | word _ _ hk => exact absurd hk (wordKind_ne (by decide) _)
  | string h => exact .inl ⟨_, rfl, h⟩
  | verbatim h => exact .inr ⟨_, rfl, h⟩
  | symbol h => simp [symbols] at h

/-- A reference is written in double quotes. -/
theorem Spells.reference_inv {cs : List Char} (h : Spells .reference cs) :
    ∃ body, cs = '"' :: body ∧ Closes '"' body := by
  cases h with
  | word _ _ hk => exact absurd hk (wordKind_ne (by decide) _)
  | reference h => exact ⟨_, rfl, h⟩
  | symbol h => simp [symbols] at h

/-- A regex is written between slashes. -/
theorem Spells.regex_inv {cs : List Char} (h : Spells .regex cs) :
    ∃ body, cs = '/' :: body ++ ['/'] ∧ Regex.IsLiteral body := by
  cases h with
  | word _ _ hk => exact absurd hk (wordKind_ne (by decide) _)
  | regex h => exact ⟨_, rfl, h⟩
  | symbol h => simp [symbols] at h

/-- A duration is written as a magnitude and a unit. -/
theorem Spells.duration_inv {cs : List Char} (h : Spells .duration cs) :
    ∃ magnitude u, Duration.split? cs = some (magnitude, u) := by
  cases h with
  | word _ _ hk => exact absurd hk (wordKind_ne (by decide) _)
  | duration _ _ hk =>
    obtain ⟨⟨magnitude, u⟩, hsplit⟩ := Option.isSome_iff_exists.1 hk
    exact ⟨magnitude, u, hsplit⟩
  | symbol h => simp [symbols] at h

/-- An operator or a delimiter is scanned as what it is. -/
theorem scan_symbol {k : Kind} {cs after : List Char} {last : Option Kind} (h : (k, cs) ∈ symbols)
    (hlast : mayFollow last k = true) (hafter : KeepsApart k after) :
    scan (regexMayFollow last) (cs ++ after) = .verbatim k cs after := by
  have hhead : ∀ c, after.head? = some c → endsBefore k c = true := hafter
  simp only [symbols, List.mem_cons, Prod.mk.injEq, List.not_mem_nil, or_false] at h
  have hslash : k = .slash → regexMayFollow last = false ∧ after.head? ≠ some '*' := by
    rintro rfl
    refine ⟨by simpa [mayFollow] using hlast, fun hc => ?_⟩
    have := hhead _ hc
    simp [endsBefore] at this
  have heq : k ∈ [.assign, .not, .lt, .gt] → after.head? ≠ some '=' ∧ after.head? ≠ some '~' := by
    intro hk
    simp only [List.mem_cons, List.not_mem_nil, or_false] at hk
    constructor <;>
    · intro hc
      have := hhead _ hc
      rcases hk with rfl | rfl | rfl | rfl <;> simp [endsBefore] at this
  rcases h with h | h | h | h | h | h | h | h | h | h | h | h | h | h | h | h | h | h | h | h | h |
    h | h | h <;> obtain ⟨rfl, rfl⟩ := h
  all_goals first
    | simp [scan, symbol?, Lexeme.front, hslash rfl]
    | simp [scan, symbol?, Lexeme.front, heq (by decide)]
    | simp [scan, symbol?, Lexeme.front]

/-- A text that spells a token is scanned as the token. -/
theorem scan_spells {k : Kind} {cs after : List Char} {last : Option Kind} (h : Spells k cs)
    (hlast : mayFollow last k = true) (hafter : KeepsApart k after) :
    scan (regexMayFollow last) (cs ++ after) = .verbatim k cs after := by
  cases h with
  | @word c cs k hc hcs hk hnot =>
    subst hk
    rw [scan_word _ hc hcs fun x hx => isNamePart_of_endsBefore hnot (hafter x hx)]
  | number hc hcs hk =>
    rw [scan_quantity _ hc hcs, hk]
    · rfl
    · intro x hx
      simpa [endsBefore] using hafter x hx
  | duration hc hcs hk =>
    rw [scan_quantity _ hc hcs, hk]
    · rfl
    · intro x hx
      simpa [endsBefore] using hafter x hx
  | @string body h =>
    have htake := @take_two_of_closes body after h fun c hc => by
      simpa [endsBefore] using hafter c hc
    have hlit := @quotedLiteral_eq .string "string" '\'' body after h
    simp only [List.cons_append] at hlit ⊢
    simp [scan, htake, hlit]
  | @verbatim body h =>
    simp [scan, Quote.triple, tripleLiteral, h.untilTriple? after]
  | @reference body h =>
    have hlit := @quotedLiteral_eq .reference "reference" '"' body after h
    simp only [List.cons_append] at hlit ⊢
    simp [scan, hlit]
  | @regex body h =>
    have hallowed : regexMayFollow last = true := hlast
    have hlit := @quotedLiteral_eq .regex "regex" '/' _ after h.closes
    obtain ⟨c, body, rfl⟩ := List.exists_cons_of_ne_nil h.nonempty
    have hc : c ≠ '*' := fun hc => h.noComment (by rw [hc]; rfl)
    simp only [List.cons_append, List.append_assoc, List.nil_append] at hlit ⊢
    simp [scan, hallowed, hc, hlit]
  | symbol h => exact scan_symbol h hlast hafter

end Lexer

/-! ## What stands in front of a token -/

namespace Trivia

/-- A run of blanks and of line comments, each of which ends with its line. -/
inductive Formed : List Trivia → Prop where
  | nil : Formed []
  | blank {c : Char} {g : List Trivia} (hc : Text.isBlank c = true) (h : Formed g) :
      Formed (.blank c :: g)
  | line {body : List Char} {g : List Trivia} (hbody : '\n' ∉ body) (h : Formed g) :
      Formed (.line body :: .blank '\n' :: g)

/-- Two such runs make one. -/
theorem Formed.append {g g' : List Trivia} (h : Formed g) (h' : Formed g') : Formed (g ++ g') := by
  induction h with
  | nil => exact h'
  | blank hc _ ih => exact .blank hc ih
  | line hbody _ ih => exact .line hbody ih

/-- Where no blank and no comment starts, nothing is split off. -/
theorem split_eq_nil {cs : List Char} (h : first? cs = none) : split cs = ([], cs) := by
  rw [split]
  split
  · rfl
  · next h' => rw [h] at h'; cases h'

/-- What is split off is the first blank or comment, and what is split off behind it. -/
theorem split_eq_cons {cs rest : List Char} {t : Trivia} (h : first? cs = some (t, rest)) :
    split cs = (t :: (split rest).1, (split rest).2) := by
  rw [split]
  split
  · next h' => rw [h] at h'; cases h'
  · next h' => rw [h] at h'; cases h'; rfl

/-- Such a run is split off the front as it stands. -/
theorem split_formed {g : List Trivia} {cs : List Char} (h : Formed g) (hcs : first? cs = none) :
    split (textOf g ++ cs) = (g, cs) := by
  induction h with
  | nil => exact split_eq_nil hcs
  | @blank c g hc _ ih =>
    have hfirst : first? (textOf (.blank c :: g) ++ cs) = some (.blank c, textOf g ++ cs) := by
      simp [textOf, text, first?, hc]
    rw [split_eq_cons hfirst, ih]
  | @line body g hbody _ ih =>
    have hslash : Text.isBlank '/' = false := by decide
    have hnewline : Text.isBlank '\n' = true := by decide
    have hline : textOf (.line body :: .blank '\n' :: g) ++ cs =
        '/' :: '/' :: (body ++ '\n' :: (textOf g ++ cs)) := by
      simp [textOf, text]
    obtain ⟨htake, hdrop⟩ := @Lexer.takeWhile_eq _ (· ≠ '\n') body
      ('\n' :: (textOf g ++ cs))
      (fun x hx => decide_eq_true fun (h : x = '\n') => hbody (h ▸ hx)) (by simp)
    have hfirst : first? ('/' :: '/' :: (body ++ '\n' :: (textOf g ++ cs))) =
        some (.line body, '\n' :: (textOf g ++ cs)) := by
      simp only [first?, hslash, Bool.false_eq_true, if_false, if_true, htake, hdrop]
    have hnext : first? ('\n' :: (textOf g ++ cs)) = some (.blank '\n', textOf g ++ cs) := by
      simp [first?, hnewline]
    rw [hline, split_eq_cons hfirst, split_eq_cons hnext, ih]

/-- No blank and no comment starts with a character that is neither a blank nor a slash before a
slash or a star. -/
theorem first?_eq_none {c : Char} {cs : List Char} (hblank : Text.isBlank c = false)
    (hslash : c = '/' → cs.head? ≠ some '/' ∧ cs.head? ≠ some '*') : first? (c :: cs) = none := by
  unfold first?
  simp only [hblank, Bool.false_eq_true, if_false]
  split
  · next hc =>
    obtain ⟨h₁, h₂⟩ := hslash hc
    split
    · simp at h₁
    · simp at h₂
    · rfl
  · rfl

end Trivia

namespace Lexer

theorem Spells.ne_nil {k : Kind} {cs : List Char} (h : Spells k cs) : cs ≠ [] := by
  cases h with
  | symbol h =>
    have htable : ∀ x ∈ symbols, x.2 ≠ [] := by decide
    exact htable _ h
  | _ => simp [Quote.triple]

/-- A token does not start like something in front of it. -/
theorem Spells.first?_eq_none {k : Kind} {cs after : List Char} (h : Spells k cs)
    (hafter : KeepsApart k after) : Trivia.first? (cs ++ after) = none := by
  cases h with
  | word hc hcs hk hnot =>
    refine Trivia.first?_eq_none (isBlank_of_isNameStart hc) ?_
    rintro rfl
    rw [isNameStart_of_mem_marks (by decide)] at hc
    cases hc
  | number hc hcs hk | duration hc hcs hk =>
    refine Trivia.first?_eq_none (isBlank_of_isDigit hc) ?_
    rintro rfl
    cases hc
  | string h | verbatim h | reference h =>
    exact Trivia.first?_eq_none (isBlank_of_mem_marks (by decide)) fun h => absurd h (by decide)
  | @regex body h =>
    refine Trivia.first?_eq_none (isBlank_of_mem_marks (by decide)) fun _ => ?_
    have hslash := Regex.head?_ne_of_closes h.closes
    have hstar := h.noComment
    obtain ⟨c, body, rfl⟩ := List.exists_cons_of_ne_nil h.nonempty
    exact ⟨by simpa using hslash, by simpa using hstar⟩
  | symbol h =>
    -- of all marks only the slash can begin a comment, and what follows it is kept apart
    have htable : ∀ x ∈ symbols, x.2 ≠ [] ∧ x.2.head?.all fun c =>
        marks.contains c && (c != '/' || x == (.slash, ['/'])) := by decide
    obtain ⟨hne, hhead⟩ := htable _ h
    obtain ⟨c, ds, hcs⟩ := List.exists_cons_of_ne_nil hne
    have hcs : cs = c :: ds := hcs
    have hmark : c ∈ marks ∧ (c = '/' → (k, cs) = (.slash, ['/'])) := by
      simpa [hcs, imp_iff_not_or] using hhead
    obtain ⟨hmark, hslash⟩ := hmark
    rw [hcs]
    refine Trivia.first?_eq_none (isBlank_of_mem_marks hmark) fun hc => ?_
    have hx := hslash hc
    simp only [Prod.mk.injEq, hcs, List.cons.injEq] at hx
    obtain ⟨rfl, -, rfl⟩ := hx
    constructor <;>
    · intro h
      have := hafter _ h
      simp [endsBefore] at this

/-- Nothing but an operator starts with a character that goes on with another operator. -/
theorem Spells.head_ne {k : Kind} {cs : List Char} (h : Spells k cs)
    (hk : k ∉ [.assign, .eqEq, .regexEq]) : ∀ c ∈ cs.head?, c ≠ '=' ∧ c ≠ '~' := by
  intro c hc
  have hmarks : isNameStart '=' = false ∧ isNameStart '~' = false := by decide +kernel
  cases h with
  | word hstart hcs hk hnot =>
    cases hc
    constructor <;> (rintro rfl; simp [hmarks] at hstart)
  | number hstart | duration hstart =>
    cases hc
    constructor <;> (rintro rfl; cases hstart)
  | string h | verbatim h | reference h | regex h => cases hc; decide
  | symbol h =>
    have htable : ∀ x ∈ symbols, x.1 ∉ [Kind.assign, .eqEq, .regexEq] →
        x.2.head?.all fun c => c != '=' && c != '~' := by decide
    have hall := htable _ h hk
    rw [Option.mem_def.1 hc] at hall
    simpa using hall

/-! ## What was scanned -/

/-- Whatever is scanned as an operator or a delimiter is written as one. -/
theorem mem_symbols_of_symbol? {c : Char} {tl : List Char} {k : Kind} {width : Nat}
    (h : symbol? c tl.head? = some (k, width)) : (k, (c :: tl).take width) ∈ symbols := by
  unfold symbol? at h
  cases tl with
  | nil =>
    repeat' split at h
    all_goals simp_all [symbols]
  | cons d tl =>
    repeat' split at h
    all_goals simp_all [symbols]
    all_goals
      obtain ⟨rfl, rfl⟩ := h
      simp

/-- A quoted literal that is not malformed is closed. -/
theorem spells_quotedLiteral {k : Kind} {what : String} {quote : Char} {tl : List Char}
    (hk : (quotedLiteral k what quote (quote :: tl)).kind ≠ .error) :
    ∃ body rest, quotedLiteral k what quote (quote :: tl) = .verbatim k (quote :: body) rest ∧
      Closes quote body ∧ tl = body ++ rest := by
  unfold quotedLiteral at hk ⊢
  split at hk
  · next body rest h => exact ⟨body, rest, rfl, closes_of_untilQuote? h, eq_append_of_untilQuote? h⟩
  · exact absurd rfl hk

/-- A closed literal ends in its quote. -/
theorem Closes.exists_append {quote : Char} {body : List Char} (h : Closes quote body) :
    ∃ inside, body = inside ++ [quote] := by
  unfold Closes at h
  suffices hany : ∀ cs rest, Lexer.untilQuote? quote cs = some (body, rest) →
      ∃ inside, body = inside ++ [quote] from hany _ _ h
  clear h
  intro cs rest h
  fun_induction Lexer.untilQuote? quote cs generalizing body rest with
  | case1 => cases h
  | case2 => cases h
  | case3 => cases h; exact ⟨[], rfl⟩
  | case4 => cases h
  | case5 d cs ih =>
    obtain ⟨⟨body', rest'⟩, hb, heq⟩ := Option.map_eq_some_iff.1 h
    cases heq
    obtain ⟨inside, rfl⟩ := ih _ hb
    exact ⟨_ :: d :: inside, rfl⟩
  | case6 => cases h; exact ⟨[], rfl⟩
  | case7 c d cs _ _ ih =>
    obtain ⟨⟨body', rest'⟩, hb, heq⟩ := Option.map_eq_some_iff.1 h
    cases heq
    obtain ⟨inside, rfl⟩ := ih _ hb
    exact ⟨c :: inside, rfl⟩

/-- So its inside is found between two quotes. -/
theorem Closes.between?_eq {quote : Char} {body : List Char} (h : Closes quote body) :
    ∃ inside, Quote.between? [quote] (quote :: body) = some inside := by
  obtain ⟨inside, rfl⟩ := h.exists_append
  exact ⟨inside, Quote.between?_enclosed [quote] inside⟩

theorem ClosesTriple.between?_eq {body : List Char} (h : ClosesTriple body) :
    ∃ inside, body = inside ++ Quote.triple ∧
      Quote.between? Quote.triple (Quote.triple ++ body) = some inside := by
  obtain ⟨inside, rfl⟩ := untilTriple?_eq_append h
  refine ⟨inside, rfl, ?_⟩
  rw [← List.append_assoc]
  exact Quote.between?_enclosed Quote.triple inside

/-- A scanned token has a text that spells it, unless it is malformed or the end. -/
theorem spells_of_scan {allowed : Bool} {cs : List Char} (hcs : Trivia.first? cs = none)
    (hk : (scan allowed cs).kind ∉ [.error, .eof, .not]) :
    Spells (scan allowed cs).kind (scan allowed cs).taken ∧
      (scan allowed cs).text = String.ofList (scan allowed cs).taken := by
  cases cs with
  | nil => simp [scan] at hk
  | cons c tl =>
    rw [scan] at hk ⊢
    -- the branches of `scan` in turn: an open comment, a regex, the quotes, marks, words, numbers
    split at hk
    · simp [Lexeme.unterminated] at hk
    next hblock =>
    rw [if_neg hblock]
    split at hk
    · next hregex =>
      obtain ⟨rfl, hallowed⟩ := hregex
      obtain ⟨body, rest, hlit, hcloses, rfl⟩ :=
        spells_quotedLiteral (k := .regex) (fun h => hk (by rw [h]; decide))
      obtain ⟨inside, rfl⟩ := hcloses.exists_append
      rw [if_pos ⟨rfl, hallowed⟩, hlit]
      -- with a star in front it would be an open comment, and without a body a comment to the
      -- end of the line
      refine ⟨.regex ⟨hcloses, ?_, ?_⟩, rfl⟩
      · intro hstar
        refine hblock ⟨rfl, ?_⟩
        cases inside with
        | nil => cases hstar
        | cons d inside => simpa using hstar
      · rintro rfl
        simp [Trivia.first?, show Text.isBlank '/' = false by decide] at hcs
    next hregex =>
    rw [if_neg hregex]
    split at hk
    · next hquote =>
      subst hquote
      rw [if_pos rfl]
      split at hk
      · next htwo =>
        obtain ⟨tl, rfl⟩ : ∃ rest, tl = '\'' :: '\'' :: rest :=
          ⟨tl.drop 2, by rw [← List.take_append_drop 2 tl, htwo]; rfl⟩
        rw [if_pos htwo]
        unfold tripleLiteral at hk ⊢
        split at hk
        · next body rest h =>
          exact ⟨.verbatim (closesTriple_of_untilTriple? h), rfl⟩
        · simp [Lexeme.unterminated] at hk
      · next htwo =>
        rw [if_neg htwo]
        obtain ⟨body, rest, hlit, hcloses, -⟩ :=
          spells_quotedLiteral (k := .string) (fun h => hk (by rw [h]; decide))
        rw [hlit]
        exact ⟨.string hcloses, rfl⟩
    next hquote =>
    rw [if_neg hquote]
    split at hk
    · next hdouble =>
      subst hdouble
      obtain ⟨body, rest, hlit, hcloses, -⟩ :=
        spells_quotedLiteral (k := .reference) (fun h => hk (by rw [h]; decide))
      rw [if_pos rfl, hlit]
      exact ⟨.reference hcloses, rfl⟩
    next hdouble =>
    rw [if_neg hdouble]
    split at hk
    · next kind width hsym =>
      exact ⟨.symbol (mem_symbols_of_symbol? hsym), rfl⟩
    · split at hk
      · next hstart =>
        have htake : (c :: tl).takeWhile isNamePart = c :: tl.takeWhile isNamePart := by
          simp [isNamePart_of_isNameStart hstart]
        rw [if_pos hstart]
        rw [word, htake] at hk ⊢
        refine ⟨.word hstart (fun x hx => List.mem_takeWhile_imp hx) rfl fun h => hk ?_, rfl⟩
        rw [h]
        decide
      next hstart =>
        split at hk
        · next hdigit =>
          have htake : (c :: tl).takeWhile isNumberPart = c :: tl.takeWhile isNumberPart := by
            simp [isNumberPart_of_isDigit hdigit]
          have hparts : ∀ x ∈ tl.takeWhile isNumberPart, isNumberPart x = true :=
            fun x hx => List.mem_takeWhile_imp hx
          rw [if_neg hstart, if_pos hdigit, quantity, htake]
          refine ⟨?_, rfl⟩
          simp only [Lexeme.verbatim]
          split
          · next h => exact .duration hdigit hparts h
          · next h => exact .number hdigit hparts (by simpa using h)
        · simp at hk

end Lexer

/-- Behind what is split off neither a blank nor a comment starts. -/
theorem Trivia.first?_split (cs : List Char) : first? (split cs).2 = none := by
  induction hn : cs.length using Nat.strongRecOn generalizing cs with
  | _ n ih =>
    rw [split]
    split
    · next h => exact h
    · next t rest hf => exact ih rest.length (hn ▸ length_lt_of_first? hf) rest rfl

end Tickscript
