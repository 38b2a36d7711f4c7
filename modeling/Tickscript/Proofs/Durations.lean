import Tickscript.Proofs.Literals

/-!
# Durations to the microsecond

A clock counts seconds of 64 bits and nanoseconds, and a literal stands for microseconds of 64 bits.
So what is written for a stretch of time loses what is less than a microsecond, and for a long one
there is no literal at all: the text is written, but it is refused when it is read. This is
`read_render_eq`, which says for every number of microseconds what becomes of it.

The unit is looked for from the longest to the shortest, so the one that is found is the longest
that divides the number (`longest_of_find?`). The number can be told from the text, whether the text
is a literal or not (`render_injective`).
-/

namespace Tickscript.Duration

/-! ## The unit -/

/-- The units stand in order, the longest first. -/
theorem units_sorted : units.Pairwise fun u v => v.micros ≤ u.micros := by
  decide

/-- The two last units are as long as each other, so the last one is never found. -/
theorem find?_dropLast {p : TimeUnit → Bool} (h : p ⟨['u'], 1⟩ = true) :
    units.find? p = units.dropLast.find? p := by
  have hsome : (units.dropLast.find? p).isSome = true := by
    rw [List.find?_isSome]
    exact ⟨⟨['u'], 1⟩, by decide, h⟩
  have hunits : units = units.dropLast ++ [⟨['µ'], 1⟩] := rfl
  rw [hunits, List.find?_append, Option.or_of_isSome hsome]
  rfl

/-- The unit that is found is one of those that are written, and the longest that divides the
number. -/
theorem longest_of_find? {micros : Nat} {u : TimeUnit}
    (h : units.find? (fun u => micros % u.micros == 0) = some u) :
    u ∈ units.dropLast ∧ u.micros ∣ micros ∧
      ∀ v ∈ units, v.micros ∣ micros → v.micros ≤ u.micros := by
  refine ⟨?_, ?_, ?_⟩
  · rw [find?_dropLast (by simp [Nat.mod_one])] at h
    exact List.mem_of_find?_eq_some h
  · have hdvd : micros % u.micros = 0 := by simpa using List.find?_some h
    exact Nat.dvd_of_mod_eq_zero hdvd
  · intro v hv hdvd
    obtain ⟨-, before, after, hunits, hbefore⟩ := List.find?_eq_some_iff_append.1 h
    have hsorted := units_sorted
    rw [hunits] at hv hsorted
    rcases List.mem_append.1 hv with hv | hv
    · -- A unit in front of the one that was found does not divide the number.
      have hno := hbefore v hv
      rw [Nat.mod_eq_zero_of_dvd hdvd] at hno
      cases hno
    · rcases List.mem_cons.1 hv with rfl | hv
      · exact Nat.le_refl _
      · exact (List.pairwise_cons.1 (List.pairwise_append.1 hsorted).2.1).1 v hv

/-- What is written for a number of microseconds that is not zero. -/
theorem render_longest {micros : Nat} (h : micros ≠ 0) : ∃ u ∈ units.dropLast,
    u.micros ∣ micros ∧ (∀ v ∈ units, v.micros ∣ micros → v.micros ≤ u.micros) ∧
      render micros = toString (micros / u.micros) ++ String.ofList u.name := by
  unfold render
  rw [if_neg h]
  split
  · next u hu =>
    obtain ⟨hmem, hdvd, hlongest⟩ := longest_of_find? hu
    exact ⟨u, hmem, hdvd, hlongest, rfl⟩
  · next hnone =>
    -- Every number is a number of microseconds, so the search always ends.
    have hno := List.find?_eq_none.1 hnone ⟨['u'], 1⟩ (by decide)
    exact absurd (by simp [Nat.mod_one]) hno

/-- Different numbers of microseconds are written differently. -/
theorem render_injective {m n : Nat} (h : render m = render n) : m = n := by
  have hsplit : ∀ k, ∃ digits u, split? (render k).toList = some (digits, u) ∧
      Text.decimal digits * u.micros = k := by
    intro k
    obtain ⟨u, hu, i, htext, hvalue⟩ := render_eq k
    refine ⟨Nat.toDigits 10 i, u, ?_, ?_⟩
    · rw [htext]
      exact split?_digits hu Text.isDigit_toDigits Nat.toDigits_ne_nil
    · rw [Text.decimal_toDigits, hvalue]
  -- both texts are cut at the same place, and what they are cut into gives the numbers
  obtain ⟨digits, u, hm, rfl⟩ := hsplit m
  obtain ⟨digits', u', hn, rfl⟩ := hsplit n
  rw [h, hn] at hm
  cases hm
  rfl

/-! ## Stretches of time -/

namespace Span

/-- The microseconds of a span are those of its seconds and its nanoseconds, rounded down. -/
theorem micros_eq (d : Span) :
    d.micros = (d.seconds * 1000000000 + d.nanoseconds) / 1000 := by
  unfold micros
  omega

/-- A stretch of time is written to the microsecond, and the text is read as just these microseconds
if 64 bits are enough for them. Otherwise it is refused. The unit that is written is the longest of
`w`, `d`, `h`, `m`, `s`, `ms` and `u` that divides the microseconds, unless there are none. So the
literals that were read are written alike exactly if they stand for the same duration. -/
theorem render_exact (d : Span) :
    d.micros = (d.seconds * 1000000000 + d.nanoseconds) / 1000 ∧
    (d.micros < 2 ^ 64 → read d.render = .ok d.micros) ∧
    (2 ^ 64 ≤ d.micros → read d.render = .error (.invalidDuration d.render)) ∧
    (d.micros ≠ 0 → ∃ u ∈ units, u.name ≠ ['µ'] ∧ u.micros ∣ d.micros ∧
      (∀ v ∈ units, v.micros ∣ d.micros → v.micros ≤ u.micros) ∧
      d.render = toString (d.micros / u.micros) ++ String.ofList u.name) ∧
    ∀ (a b : String) (m n : Nat), read a = .ok m → read b = .ok n →
      (Duration.render m = Duration.render n ↔ m = n) := by
  have hread := read_render_eq d.micros
  have hlimit : limit = 2 ^ 64 := Nat.pow_eq
  rw [hlimit] at hread
  refine ⟨d.micros_eq, ?_, ?_, ?_, ?_⟩
  · intro hlt
    rw [if_pos hlt] at hread
    exact hread
  · intro hle
    rw [if_neg (Nat.not_lt.2 hle)] at hread
    exact hread
  · intro hne
    obtain ⟨u, hu, hdvd, hlongest, htext⟩ := render_longest hne
    have hname : ∀ u ∈ units.dropLast, u.name ≠ ['µ'] := by decide
    exact ⟨u, List.dropLast_subset _ hu, hname u hu, hdvd, hlongest, htext⟩
  · intro a b m n _ _
    exact ⟨render_injective, congrArg Duration.render⟩

end Span

end Tickscript.Duration
