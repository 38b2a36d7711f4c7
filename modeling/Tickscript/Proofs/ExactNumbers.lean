import Tickscript.Proofs.Rounding

/-!
# What number literals stand for

The last word on number literals is `Number.read_exact`: which texts are literals, which of them are
whole numbers, and what value each has. Values are those of base ten (`Text.baseTen`) and, behind a
point, what such a fraction is rounded to (`Binary64.Rounds`).
-/

namespace Tickscript

/-- What a run of digits stands for in base ten: the last digit counts ones, the one before it
tens. -/
def Text.baseTen (cs : List Char) : Nat := Nat.ofDigits 10 (cs.reverse.map digitValue)

theorem Text.decimal_eq_baseTen (cs : List Char) : decimal cs = baseTen cs := by
  unfold baseTen
  induction cs using List.reverseRecOn with
  | nil => rfl
  | append_singleton cs c ih =>
    have hlast : decimal [c] = digitValue c := by simp [decimal, decimalFrom]
    rw [decimal_append_eq, ih, hlast, List.reverse_append, List.reverse_singleton,
      List.singleton_append, List.map_cons, Nat.ofDigits_cons, List.length_singleton, pow_one]
    omega

namespace Number

/-- The quotient that digits around a point are read as. -/
theorem decimal_append_div (whole fraction : List Char) :
    ((Text.decimal (whole ++ fraction) : Nat) : ℚ) / (10 ^ fraction.length : Nat) =
      Text.baseTen whole + Text.baseTen fraction / 10 ^ fraction.length := by
  rw [Text.decimal_append_eq, Text.decimal_eq_baseTen, Text.decimal_eq_baseTen]
  push_cast
  rw [add_div, mul_div_cancel_right₀ _ (by positivity)]

/-- A text is read as a whole number exactly if it is a run of digits whose value fits. -/
theorem read_eq_int_iff {text : String} {n : Nat} : read text = .ok (.int n) ↔
    IsWhole text.toList ∧ n = Text.baseTen text.toList ∧ n ≤ maxInt := by
  by_cases hwhole : IsWhole text.toList
  · rw [read_of_isWhole hwhole, Text.decimal_eq_baseTen]
    constructor
    · intro h
      split at h
      · next hle =>
        cases h
        exact ⟨hwhole, rfl, hle⟩
      · cases h
    · rintro ⟨-, rfl, hle⟩
      rw [if_pos hle]
  · refine iff_of_false (fun h => ?_) fun h => hwhole h.1
    by_cases hpoint : IsPointed text.toList
    · obtain ⟨whole, fraction, htext⟩ := hpoint.exists_sides
      rw [read_of_isPointed hpoint htext] at h
      cases h
    · rw [read_of_neither (by simp [hwhole, hpoint])] at h
      cases h

/-- A text is read as a floating-point number exactly if it has digits around one point, and the
number is the value of its digits, rounded. -/
theorem read_eq_float_iff {text : String} {x : Binary64} : read text = .ok (.float x) ↔
    IsPointed text.toList ∧ ∃ whole fraction, text.toList = whole ++ '.' :: fraction ∧
      x.Rounds (Text.baseTen whole + Text.baseTen fraction / 10 ^ fraction.length) := by
  by_cases hpoint : IsPointed text.toList
  · have hread : ∀ {whole fraction}, text.toList = whole ++ '.' :: fraction →
        (read text = .ok (.float x) ↔
          x.Rounds (Text.baseTen whole + Text.baseTen fraction / 10 ^ fraction.length)) := by
      intro whole fraction htext
      rw [read_of_isPointed hpoint htext, Nat.pow_eq, ← decimal_append_div,
        Binary64.rounds_iff (by positivity)]
      simp
    constructor
    · intro h
      obtain ⟨whole, fraction, htext⟩ := hpoint.exists_sides
      exact ⟨hpoint, whole, fraction, htext, (hread htext).1 h⟩
    · rintro ⟨-, whole, fraction, htext, hrounds⟩
      exact (hread htext).2 hrounds
  · refine iff_of_false (fun h => ?_) fun h => hpoint h.1
    by_cases hwhole : IsWhole text.toList
    · rw [read_of_isWhole hwhole] at h
      split at h <;> cases h
    · rw [read_of_neither (by simp [hwhole, hpoint])] at h
      cases h

/-- Any other text is refused. -/
theorem read_eq_error_iff {text : String} {e : LiteralError} : read text = .error e ↔
    e = .illegalNumber text ∧ ¬ IsPointed text.toList ∧
      ¬ (IsWhole text.toList ∧ Text.baseTen text.toList ≤ maxInt) := by
  by_cases hpoint : IsPointed text.toList
  · refine iff_of_false (fun h => ?_) fun h => h.2.1 hpoint
    obtain ⟨whole, fraction, htext⟩ := hpoint.exists_sides
    rw [read_of_isPointed hpoint htext] at h
    cases h
  · by_cases hwhole : IsWhole text.toList
    · rw [read_of_isWhole hwhole, Text.decimal_eq_baseTen]
      by_cases hle : Text.baseTen text.toList ≤ maxInt
      · rw [if_pos hle]
        simp [hwhole, hle]
      · rw [if_neg hle]
        simp [hpoint, hle, eq_comm]
    · rw [read_of_neither (by simp [hwhole, hpoint])]
      simp [hpoint, hwhole, eq_comm]

/-- A mark of base sixteen or a second point is found in no literal. -/
theorem not_literal_of_mark {cs : List Char} (h : ['0', 'x'] <:+: cs ∨ 2 ≤ cs.count '.') :
    ¬ IsPointed cs ∧ ¬ IsWhole cs := by
  rcases h with h | h
  · have hx : 'x' ∈ cs := h.subset (by simp)
    refine ⟨fun hpoint => ?_, fun hwhole => ?_⟩
    · rcases hpoint.digits _ hx with hdigit | heq
      · exact absurd hdigit (by decide)
      · exact absurd heq (by decide)
    · exact absurd (hwhole.2 _ hx) (by decide)
  · refine ⟨fun hpoint => ?_, fun hwhole => ?_⟩
    · have := hpoint.one_point
      omega
    · rw [List.count_eq_zero.2 (point_not_mem hwhole.2)] at h
      omega

/-- A text is read as a whole number just if it is a run of digits and the number that they make in
base ten has 63 bits at most. It is read as a floating-point number just if it is made of digits and
one point, with at least one digit, and the result is what the digits before the point and the
fraction behind it, of which either may be missing, are rounded to. Every other text is refused, and
the error keeps it; so are all that hold `0x` or a second point. -/
theorem read_exact (text : String) :
    (∀ n, read text = .ok (.int n) ↔
      IsWhole text.toList ∧ n = Text.baseTen text.toList ∧ n ≤ 2 ^ 63 - 1) ∧
    (∀ x, read text = .ok (.float x) ↔ IsPointed text.toList ∧
      ∃ whole fraction, text.toList = whole ++ '.' :: fraction ∧
        x.Rounds (Text.baseTen whole + Text.baseTen fraction / 10 ^ fraction.length)) ∧
    (∀ e, read text = .error e ↔ e = .illegalNumber text ∧ ¬ IsPointed text.toList ∧
      ¬ (IsWhole text.toList ∧ Text.baseTen text.toList ≤ 2 ^ 63 - 1)) ∧
    (['0', 'x'] <:+: text.toList ∨ 2 ≤ text.toList.count '.' →
      read text = .error (.illegalNumber text)) := by
  refine ⟨fun n => read_eq_int_iff, fun x => read_eq_float_iff, fun e => read_eq_error_iff, ?_⟩
  intro hmark
  obtain ⟨hpoint, hwhole⟩ := not_literal_of_mark hmark
  exact read_eq_error_iff.2 ⟨rfl, hpoint, fun h => hwhole h.1⟩

theorem read_exact_mark :
    ['0', 'x'] <:+: "0x1".toList ∧ read "0x1" = .error (.illegalNumber "0x1") :=
  ⟨by decide, (read_exact "0x1").2.2.2 (.inl (by decide))⟩

end Number

end Tickscript
