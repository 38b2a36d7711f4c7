import Tickscript.Token
import Tickscript.Text.Blank

/-!
# What stands between tokens

Between two tokens stand blanks and comments (sections 4.1 and 10.2 of the specification).
`Trivia.split` takes them off the front of a source and keeps every character of them, so that
nothing of a source is lost (`Trivia.split_text`); the comment of a token is read off the pieces in
front of it.
-/

namespace Tickscript

/-- A piece of what stands between tokens. A line comment reaches up to the newline, which is a
blank of its own; `block` is a comment between `/*` and `*/`. -/
inductive Trivia where
  | blank (c : Char)
  | line (body : List Char)
  | block (body : List Char)
deriving Repr, DecidableEq

namespace Trivia

/-- The piece as it stands in the source. -/
def text : Trivia → List Char
  | blank c => [c]
  | line body => '/' :: '/' :: body
  | block body => '/' :: '*' :: body ++ ['*', '/']

/-- The comment lines of a piece, each without the blanks at its ends. -/
def lines : Trivia → List String
  | blank _ => []
  | line body => (Text.lines body).map fun l => String.ofList (Text.trim l)
  | block body => (Text.lines body).map fun l => String.ofList (Text.trim l)

/-- The body of a block comment whose opening mark has been taken, and what follows the closing
mark. -/
def blockBody? : List Char → Option (List Char × List Char)
  | [] => none
  | [_] => none
  | c :: d :: cs =>
    if c = '*' ∧ d = '/' then some ([], cs)
    else (blockBody? (d :: cs)).map fun (body, rest) => (c :: body, rest)

/-- A block comment comes off the front with nothing lost. -/
theorem eq_append_of_blockBody? {cs body rest : List Char}
    (h : blockBody? cs = some (body, rest)) : cs = body ++ '*' :: '/' :: rest := by
  fun_induction blockBody? cs generalizing body rest with
  | case1 => simp at h
  | case2 => simp at h
  | case3 c d cs hcd =>
    obtain ⟨rfl, rfl⟩ := hcd
    simp only [Option.some.injEq, Prod.mk.injEq] at h
    obtain ⟨rfl, rfl⟩ := h
    rfl
  | case4 c d cs hcd ih =>
    obtain ⟨⟨body', rest'⟩, hb, heq⟩ := Option.map_eq_some_iff.1 h
    simp only [Prod.mk.injEq] at heq
    obtain ⟨rfl, rfl⟩ := heq
    rw [ih hb]
    rfl

/-- The first piece of `cs` and what follows it, if `cs` starts with a blank or with a complete
comment. -/
def first? (cs : List Char) : Option (Trivia × List Char) :=
  match cs with
  | [] => none
  | c :: tl =>
    if Text.isBlank c then some (blank c, tl)
    else if c = '/' then
      match tl with
      | '/' :: tl => some (line (tl.takeWhile (· ≠ '\n')), tl.dropWhile (· ≠ '\n'))
      | '*' :: tl => (blockBody? tl).map fun (body, rest) => (block body, rest)
      | _ => none
    else none

/-- The first piece comes off the front with nothing lost. -/
theorem eq_append_of_first? {cs rest : List Char} {t : Trivia}
    (h : first? cs = some (t, rest)) : cs = t.text ++ rest := by
  unfold first? at h
  split at h
  · simp at h
  · next c tl =>
    split at h
    · simp only [Option.some.injEq, Prod.mk.injEq] at h
      obtain ⟨rfl, rfl⟩ := h
      rfl
    · split at h
      · next hc =>
        subst hc
        split at h
        · next tl' =>
          simp only [Option.some.injEq, Prod.mk.injEq] at h
          obtain ⟨rfl, rfl⟩ := h
          simp [text, List.takeWhile_append_dropWhile]
        · next tl' =>
          obtain ⟨⟨body, rest'⟩, hb, heq⟩ := Option.map_eq_some_iff.1 h
          simp only [Prod.mk.injEq] at heq
          obtain ⟨rfl, rfl⟩ := heq
          simp [text, eq_append_of_blockBody? hb]
        · simp at h
      · simp at h

/-- No piece is empty. -/
theorem text_length_pos (t : Trivia) : 0 < t.text.length := by
  cases t <;> simp [text]

theorem length_lt_of_first? {cs rest : List Char} {t : Trivia}
    (h : first? cs = some (t, rest)) : rest.length < cs.length := by
  have := congrArg List.length (eq_append_of_first? h)
  have := t.text_length_pos
  simp only [List.length_append] at *
  omega

/-- The pieces at the front of a source, and what follows them. -/
def split (cs : List Char) : List Trivia × List Char :=
  match h : first? cs with
  | none => ([], cs)
  | some (t, rest) =>
    have : rest.length < cs.length := length_lt_of_first? h
    let after := split rest
    (t :: after.1, after.2)
termination_by cs.length

/-- The source text of a run of pieces. -/
def textOf (ts : List Trivia) : List Char := ts.flatMap text

/-- The comment that a run of pieces gives to the token after it: none without a line. -/
def commentOf (ts : List Trivia) : Option Comment :=
  match ts.flatMap lines with
  | [] => none
  | l :: ls => some (l :: ls)

/-- Taking the pieces off the front loses nothing. -/
theorem split_text (cs : List Char) : textOf (split cs).1 ++ (split cs).2 = cs := by
  induction h : cs.length using Nat.strongRecOn generalizing cs with
  | _ n ih =>
    rw [split]
    split
    · rfl
    · next t rest hf =>
      have hlt := length_lt_of_first? hf
      have := ih rest.length (h ▸ hlt) rest rfl
      simp only [textOf, List.flatMap_cons, List.append_assoc] at this ⊢
      rw [this, ← eq_append_of_first? hf]

theorem split_length_le (cs : List Char) : (split cs).2.length ≤ cs.length := by
  have := congrArg List.length (split_text cs)
  simp only [List.length_append] at this
  omega

end Trivia

end Tickscript
