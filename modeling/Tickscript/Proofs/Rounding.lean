import Tickscript.Proofs.ShortestDecimal

/-!
# Rounding to the nearest number

What a quotient is rounded to is said here by values, without the bits: `Binary64.Rounds` compares
with all finite numbers. `Binary64.ofRatio` finds the only number that meets it (`rounds_iff`).

The numbers of one scale lie on a grid, and rounding takes the nearest point of the grid on which
the quotient has 53 bits. A coarser grid has no point that this one has not (`nearest_of_le`), and
the numbers of a smaller scale are farther away than the least one of this scale (`nearest_of_lt`).
There is one such number only: two that are equally near would be neighbours, and of two neighbours
one is odd (`IsNearest.not_lt`).
-/

namespace Tickscript

/-! ## Rounding a quotient -/

/-- Rounding is off by a half at most, and by just a half only if the result is even. -/
theorem roundHalfEven_error (num : Nat) {den : Nat} (hden : 0 < den) :
    |(roundHalfEven num den : ℚ) - num / den| ≤ 1 / 2 ∧
      (|(roundHalfEven num den : ℚ) - num / den| = 1 / 2 → roundHalfEven num den % 2 = 0) := by
  have hdiv := Nat.div_add_mod num den
  have hmod := Nat.mod_lt num hden
  unfold roundHalfEven
  generalize num / den = q at *
  generalize num % den = r at *
  have hpos : (0 : ℚ) < den := by exact_mod_cast hden
  have hquot : (num : ℚ) / den = q + r / den := by
    rw [← hdiv]
    push_cast
    field_simp
  rw [hquot]
  dsimp only
  split
  · next hlow =>
    have hlt : (r : ℚ) / den < 1 / 2 := by
      rw [div_lt_div_iff₀ hpos two_pos]
      exact_mod_cast (by omega : r * 2 < 1 * den)
    have habs : |(q : ℚ) - (q + r / den)| = r / den := by
      rw [sub_add_cancel_left, abs_neg, abs_of_nonneg (by positivity)]
    rw [habs]
    exact ⟨hlt.le, fun he => absurd he hlt.ne⟩
  · split
    · next hhigh =>
      have hgt : 1 / 2 < (r : ℚ) / den := by
        rw [div_lt_div_iff₀ two_pos hpos]
        exact_mod_cast (by omega : 1 * den < r * 2)
      have hone : (r : ℚ) / den < 1 := by
        rw [div_lt_one hpos]
        exact_mod_cast hmod
      have habs : |((q + 1 : Nat) : ℚ) - (q + r / den)| = 1 - r / den := by
        rw [abs_of_nonneg] <;> push_cast <;> linarith
      rw [habs]
      exact ⟨by linarith, fun he => absurd he (by linarith)⟩
    · next hlow hhigh =>
      -- the tie: `q % 2` is added, which makes the result even
      have hhalf : (r : ℚ) / den = 1 / 2 := by
        rw [div_eq_div_iff hpos.ne' two_ne_zero]
        exact_mod_cast (by omega : r * 2 = 1 * den)
      rw [hhalf]
      refine ⟨?_, fun _ => by omega⟩
      rcases Nat.mod_two_eq_zero_or_one q with hq | hq <;> rw [hq] <;> push_cast <;> rw [abs_le] <;>
        constructor <;> linarith

/-- Any other integer is at least a half away. -/
theorem half_le_of_ne {m k : Nat} {a : ℚ} (h : |(m : ℚ) - a| ≤ 1 / 2) (hne : k ≠ m) :
    1 / 2 ≤ |(k : ℚ) - a| := by
  have hone : 1 ≤ |(k : ℚ) - m| := by
    have hz : (k : ℤ) - m ≠ 0 := by omega
    exact_mod_cast Int.one_le_abs hz
  have htri : |(k : ℚ) - m| ≤ |(k : ℚ) - a| + |a - m| := abs_sub_le ..
  rw [abs_sub_comm a] at htri
  linarith

namespace Binary64

/-! ## Values -/

/-- What a magnitude stands for, counted in the least positive number. -/
def unitsOf (n : Nat) : Nat :=
  (if n < 2 ^ 52 then n else n % 2 ^ 52 + 2 ^ 52) * 2 ^ (n / 2 ^ 52 - 1)

/-- A magnitude is its significand at its scale. -/
theorem unitsOf_magnitude (x : Binary64) : unitsOf x.magnitude = x.significand * 2 ^ x.scale := by
  simp only [unitsOf, significand, scale, Nat.pow_eq]

/-- A significand at some scale, also one that carries into the next scale. -/
theorem unitsOf_add {s m : Nat} (hm : m ≤ 2 ^ 53) (h : s = 0 ∨ 2 ^ 52 ≤ m) :
    unitsOf (s * 2 ^ 52 + m) = m * 2 ^ s := by
  unfold unitsOf
  by_cases hlow : m < 2 ^ 52
  · obtain rfl : s = 0 := by omega
    rw [if_pos (by omega), show (0 * 2 ^ 52 + m) / 2 ^ 52 - 1 = 0 by omega, Nat.zero_mul,
      Nat.zero_add]
  · rw [if_neg (by omega)]
    by_cases hcarry : m = 2 ^ 53
    · subst hcarry
      rw [show (s * 2 ^ 52 + 2 ^ 53) % 2 ^ 52 = 0 by omega,
        show (s * 2 ^ 52 + 2 ^ 53) / 2 ^ 52 - 1 = s + 1 by omega, pow_succ]
      ring
    · rw [show (s * 2 ^ 52 + m) % 2 ^ 52 + 2 ^ 52 = m by omega,
        show (s * 2 ^ 52 + m) / 2 ^ 52 - 1 = s by omega]

/-- A larger magnitude stands for a larger number. -/
theorem unitsOf_strictMono : StrictMono unitsOf := by
  refine strictMono_nat_of_lt_succ fun n => ?_
  obtain ⟨s, m, hn, hm, hs⟩ : ∃ s m, n = s * 2 ^ 52 + m ∧ m < 2 ^ 53 ∧ (s = 0 ∨ 2 ^ 52 ≤ m) :=
    ⟨n / 2 ^ 52 - 1, n - (n / 2 ^ 52 - 1) * 2 ^ 52, by omega, by omega, by omega⟩
  rw [hn, unitsOf_add hm.le hs, Nat.add_assoc, unitsOf_add (by omega) (by omega)]
  exact Nat.mul_lt_mul_of_pos_right (by omega) (by positivity)

/-- The value of a finite number. -/
def toRat (x : Binary64) : ℚ :=
  (if x.isNegative then -1 else 1) * (x.significand * 2 ^ x.scale / 2 ^ 1074)

/-- The size of a number is what its magnitude stands for. -/
theorem abs_toRat (x : Binary64) : |x.toRat| = unitsOf x.magnitude / 2 ^ 1074 := by
  have hpos : (0 : ℚ) ≤ x.significand * 2 ^ x.scale / 2 ^ 1074 := by positivity
  unfold toRat
  rw [unitsOf_magnitude, Nat.cast_mul, Nat.cast_pow, Nat.cast_ofNat]
  split
  · rw [neg_one_mul, abs_neg, abs_of_nonneg hpos]
  · rw [one_mul, abs_of_nonneg hpos]

/-- Without a sign a number is what its magnitude stands for. -/
theorem toRat_of_nonneg {x : Binary64} (h : x.isNegative = false) :
    x.toRat = unitsOf x.magnitude / 2 ^ 1074 := by
  unfold toRat
  rw [h, if_neg (by simp), one_mul, unitsOf_magnitude, Nat.cast_mul, Nat.cast_pow, Nat.cast_ofNat]

/-- Numbers without a sign are in the order of their magnitudes. -/
theorem toRat_lt_toRat_iff {x y : Binary64} (hx : x.isNegative = false)
    (hy : y.isNegative = false) :
    x.toRat < y.toRat ↔ x.magnitude < y.magnitude := by
  rw [toRat_of_nonneg hx, toRat_of_nonneg hy, div_lt_div_iff_of_pos_right (by positivity),
    Nat.cast_lt]
  exact unitsOf_strictMono.lt_iff_lt

/-- The number with a given magnitude and no sign. -/
theorem bits_ofNat {n : Nat} (h : n ≤ infinityMagnitude) :
    (⟨UInt64.ofNat n⟩ : Binary64).magnitude = n ∧
      (⟨UInt64.ofNat n⟩ : Binary64).isNegative = false := by
  have hinf : infinityMagnitude < 2 ^ 63 := by decide
  have hbits : (UInt64.ofNat n).toNat = n := UInt64.toNat_ofNat_of_lt' (by
    have : UInt64.size = 2 ^ 64 := rfl
    omega)
  simp only [magnitude, isNegative, hbits, Nat.pow_eq, decide_eq_false_iff_not]
  omega

/-- A number and its magnitude are even together. -/
theorem significand_mod_two (x : Binary64) : x.significand % 2 = x.magnitude % 2 := by
  have := x.magnitude_eq
  omega

/-! ## The nearest number -/

/-- No finite number is nearer to `r` than `x`, and if another one is as near, `x` is the even
one. -/
structure IsNearest (x : Binary64) (r : ℚ) : Prop where
  nonneg : x.isNegative = false
  finite : x.isFinite = true
  nearest : ∀ y : Binary64, y.isFinite = true → |x.toRat - r| ≤ |y.toRat - r|
  even_of_tie : ∀ y : Binary64, y.isFinite = true → |y.toRat - r| = |x.toRat - r| →
    y.toRat = x.toRat ∨ x.significand % 2 = 0

/-- Where numbers become too large: half way between the largest finite number and the power of two
that would follow it. -/
def overflow : ℚ := (2 ^ 53 - 1 / 2) * 2 ^ 971

/-- `x` is what `r`, which is not negative, is rounded to: the nearest number, of two equally near
ones the even one, and infinity if `r` is too large. -/
def Rounds (x : Binary64) (r : ℚ) : Prop := if r < overflow then x.IsNearest r else x = infinity

/-- Of two nearest numbers none is less than the other. -/
theorem IsNearest.not_lt {x y : Binary64} {r : ℚ} (hx : x.IsNearest r) (hy : y.IsNearest r) :
    ¬ x.toRat < y.toRat := by
  intro hlt
  have htie : |x.toRat - r| = |y.toRat - r| :=
    le_antisymm (hx.nearest y hy.finite) (hy.nearest x hx.finite)
  -- both are even, so there is a number between them
  have hxeven := (hx.even_of_tie y hy.finite htie.symm).resolve_left hlt.ne'
  have hyeven := (hy.even_of_tie x hx.finite htie).resolve_left hlt.ne
  rw [significand_mod_two] at hxeven hyeven
  have hmag := (toRat_lt_toRat_iff hx.nonneg hy.nonneg).1 hlt
  have hfin : y.magnitude < infinityMagnitude := by simpa [isFinite] using hy.finite
  obtain ⟨hz, hzneg⟩ := bits_ofNat (n := x.magnitude + 1) (by omega)
  generalize (⟨UInt64.ofNat (x.magnitude + 1)⟩ : Binary64) = z at hz hzneg
  have hzfin : z.isFinite = true := by
    unfold isFinite
    rw [decide_eq_true_eq]
    omega
  have hxz := (toRat_lt_toRat_iff hx.nonneg hzneg).2 (by omega)
  have hzy := (toRat_lt_toRat_iff hzneg hy.nonneg).2 (by omega)
  -- the quotient is half way between them, so that number is nearer
  have hmid : r - x.toRat = y.toRat - r := by
    rcases abs_eq_abs.1 htie with h | h <;> linarith
  have hnear := hx.nearest z hzfin
  rw [abs_sub_comm, abs_of_nonneg (by linarith : 0 ≤ r - x.toRat)] at hnear
  have hless : |z.toRat - r| < r - x.toRat := by
    rw [abs_lt]
    constructor <;> linarith
  linarith

/-- There is one nearest number. -/
theorem IsNearest.unique {x y : Binary64} {r : ℚ} (hx : x.IsNearest r) (hy : y.IsNearest r) :
    x = y := by
  have hmag : x.magnitude = y.magnitude := by
    have hxy := hx.not_lt hy
    have hyx := hy.not_lt hx
    rw [toRat_lt_toRat_iff hx.nonneg hy.nonneg] at hxy
    rw [toRat_lt_toRat_iff hy.nonneg hx.nonneg] at hyx
    omega
  rw [← eq_of_magnitude hx.nonneg rfl, hmag, eq_of_magnitude hy.nonneg rfl]

/-! ## Rounding finds it -/

/-- A quotient `r` that is `a` at the scale `s`, where it has 53 bits before the point or is below
the normal range, and the significand `m` that `a` is rounded to. -/
structure Scaled (r a : ℚ) (s m : Nat) : Prop where
  value : r = a * 2 ^ s / 2 ^ 1074
  error : |(m : ℚ) - a| ≤ 1 / 2
  even_of_half : |(m : ℚ) - a| = 1 / 2 → m % 2 = 0
  nonneg : 0 ≤ a
  low : s = 0 ∨ 2 ^ 52 ≤ a
  high : a < 2 ^ 53

namespace Scaled

variable {r a : ℚ} {s m : Nat}

/-- The significand has 53 bits at most, or is the next power of two. -/
theorem significand_le (h : Scaled r a s m) : m ≤ 2 ^ 53 := by
  have herr := abs_le.1 h.error
  have hlt : (m : ℚ) < (2 ^ 53 + 1 : Nat) := by
    push_cast
    linarith [h.high]
  have := Nat.cast_lt.1 hlt
  omega

/-- Above the least scale the significand has all its bits. -/
theorem le_significand (h : Scaled r a s m) : s = 0 ∨ 2 ^ 52 ≤ m := by
  rcases h.low with hs | hlow
  · exact .inl hs
  · right
    have herr := abs_le.1 h.error
    have hlt : ((2 ^ 52 : Nat) : ℚ) < (m + 1 : Nat) := by
      push_cast
      linarith
    have := Nat.cast_lt.1 hlt
    omega

/-- Zero has the significand zero. -/
theorem significand_eq_zero (h : Scaled r a s m) (hzero : r = 0) : m = 0 := by
  have ha : a = 0 := by
    have hpow : (2 : ℚ) ^ s ≠ 0 := by positivity
    have hunit : (2 : ℚ) ^ 1074 ≠ 0 := by positivity
    rw [h.value, div_eq_zero_iff, mul_eq_zero] at hzero
    exact (hzero.resolve_right hunit).resolve_right hpow
  by_contra hne
  have hhalf := abs_le.1 h.error
  have hone : (1 : ℚ) ≤ m := by exact_mod_cast Nat.one_le_iff_ne_zero.2 hne
  linarith

/-- Distances at a scale are distances of the significands, scaled. -/
theorem abs_scaled (k : ℚ) : |k * 2 ^ s - a * 2 ^ s| = |k - a| * 2 ^ s := by
  have hpow : (0 : ℚ) < 2 ^ s := by positivity
  rw [← sub_mul, abs_mul, abs_of_pos hpow]

/-- The numbers of this scale and of larger ones are points of one grid, and `m` is the nearest. -/
theorem nearest_of_le (h : Scaled r a s m) {y : Binary64} (hle : s ≤ y.scale) :
    |(m : ℚ) * 2 ^ s - a * 2 ^ s| ≤ |(unitsOf y.magnitude : ℚ) - a * 2 ^ s| ∧
      (|(unitsOf y.magnitude : ℚ) - a * 2 ^ s| = |(m : ℚ) * 2 ^ s - a * 2 ^ s| →
        unitsOf y.magnitude = m * 2 ^ s ∨ m % 2 = 0) := by
  have hpow : (0 : ℚ) < 2 ^ s := by positivity
  obtain ⟨d, hd⟩ := Nat.exists_eq_add_of_le hle
  generalize hk : y.significand * 2 ^ d = k
  have hgrid : unitsOf y.magnitude = k * 2 ^ s := by
    rw [unitsOf_magnitude, hd, ← hk, pow_add]
    ring
  rw [hgrid]
  push_cast
  rw [abs_scaled, abs_scaled]
  by_cases hkm : k = m
  · subst hkm
    exact ⟨le_rfl, fun _ => .inl rfl⟩
  · have hhalf := half_le_of_ne h.error hkm
    refine ⟨mul_le_mul_of_nonneg_right (h.error.trans hhalf) hpow.le, fun htie => .inr ?_⟩
    have hsame := mul_right_cancel₀ hpow.ne' htie
    exact h.even_of_half (le_antisymm h.error (hsame ▸ hhalf))

/-- The numbers of a smaller scale are too small to be nearest. -/
theorem nearest_of_lt (h : Scaled r a s m) {y : Binary64} (hlt : y.scale < s) :
    |(m : ℚ) * 2 ^ s - a * 2 ^ s| < |(unitsOf y.magnitude : ℚ) - a * 2 ^ s| := by
  have hpow : (0 : ℚ) < 2 ^ s := by positivity
  have hlow : 2 ^ 52 ≤ a := h.low.resolve_left (by omega)
  have hbelow : (unitsOf y.magnitude : ℚ) < 2 ^ 52 * 2 ^ s := by
    have hunits : unitsOf y.magnitude < 2 ^ 52 * 2 ^ s :=
      calc unitsOf y.magnitude = y.significand * 2 ^ y.scale := unitsOf_magnitude y
        _ < 2 ^ 53 * 2 ^ y.scale := Nat.mul_lt_mul_of_pos_right y.significand_lt (by positivity)
        _ = 2 ^ 52 * 2 ^ (y.scale + 1) := by ring
        _ ≤ 2 ^ 52 * 2 ^ s := Nat.mul_le_mul_left _ (Nat.pow_le_pow_right (by omega) hlt)
    exact_mod_cast hunits
  -- the least number of this scale is nearer already
  have hleast : |(m : ℚ) - a| ≤ a - 2 ^ 52 := by
    by_cases hm : m = 2 ^ 52
    · rw [hm, abs_sub_comm]
      push_cast
      exact (abs_of_nonneg (by linarith)).le
    · have hhalf := half_le_of_ne h.error (Ne.symm hm)
      rw [abs_sub_comm, Nat.cast_pow, Nat.cast_ofNat, abs_of_nonneg (by linarith)] at hhalf
      linarith [h.error]
  have hpoint : 2 ^ 52 * 2 ^ s ≤ a * 2 ^ s := mul_le_mul_of_nonneg_right hlow hpow.le
  calc |(m : ℚ) * 2 ^ s - a * 2 ^ s| = |(m : ℚ) - a| * 2 ^ s := abs_scaled _
    _ ≤ (a - 2 ^ 52) * 2 ^ s := mul_le_mul_of_nonneg_right hleast hpow.le
    _ < a * 2 ^ s - unitsOf y.magnitude := by linarith
    _ ≤ |(unitsOf y.magnitude : ℚ) - a * 2 ^ s| := by
      rw [abs_sub_comm]
      exact le_abs_self _

/-- No number is nearer than the one with this significand, and another one is as near only if the
significand is even. -/
theorem nearest (h : Scaled r a s m) (y : Binary64) :
    |(m : ℚ) * 2 ^ s - a * 2 ^ s| ≤ |(unitsOf y.magnitude : ℚ) - a * 2 ^ s| ∧
      (|(unitsOf y.magnitude : ℚ) - a * 2 ^ s| = |(m : ℚ) * 2 ^ s - a * 2 ^ s| →
        unitsOf y.magnitude = m * 2 ^ s ∨ m % 2 = 0) := by
  by_cases hle : s ≤ y.scale
  · exact h.nearest_of_le hle
  · have hfar := h.nearest_of_lt (Nat.lt_of_not_le hle)
    exact ⟨hfar.le, fun htie => absurd htie hfar.ne'⟩

/-- The carry of the significand makes infinity of just the quotients that are too large. -/
theorem lt_overflow_iff (h : Scaled r a s m) :
    r < overflow ↔ s * 2 ^ 52 + m < infinityMagnitude := by
  have hinf : infinityMagnitude = 2047 * 2 ^ 52 := rfl
  have hm := h.significand_le
  have hm' := h.le_significand
  have herr := abs_le.1 h.error
  have hhigh := h.high
  have hlow := h.low
  have hlt : r < overflow ↔ a * 2 ^ s < (2 ^ 53 - 1 / 2) * 2 ^ 2045 := by
    rw [h.value, overflow, div_lt_iff₀ (by positivity), mul_assoc, ← pow_add]
  rw [hlt, hinf]
  rcases lt_trichotomy s 2045 with hs | rfl | hs
  · -- the scale is less than the largest, and so is the next one
    refine iff_of_true ?_ (by omega)
    have hpow : (2 : ℚ) ^ (s + 1) ≤ 2 ^ 2045 := pow_le_pow_right₀ (by norm_num) (by omega)
    rw [pow_succ] at hpow
    have hpos : (0 : ℚ) < 2 ^ s := by positivity
    generalize (2 : ℚ) ^ 2045 = p at hpow ⊢
    generalize (2 : ℚ) ^ s = q at hpow hpos ⊢
    nlinarith
  · -- at the largest scale it depends on the significand: `2 ^ 53` is one too many
    have hpos : (0 : ℚ) < 2 ^ 2045 := by positivity
    rw [mul_lt_mul_iff_left₀ hpos]
    constructor
    · intro ha
      have hless : (m : ℚ) < (2 ^ 53 : Nat) := by
        push_cast
        linarith
      have := Nat.cast_lt.1 hless
      omega
    · intro hsum
      -- a quotient at the limit or above would be a tie that went to an odd significand
      by_contra hge
      have hodd : m = 2 ^ 53 - 1 := by
        have hgt : ((2 ^ 53 - 2 : Nat) : ℚ) < m := by
          push_cast
          linarith
        have := Nat.cast_lt.1 hgt
        omega
      have hhalf : |(m : ℚ) - a| = 1 / 2 := by
        refine le_antisymm h.error ?_
        rw [abs_sub_comm, hodd]
        refine le_trans ?_ (le_abs_self _)
        push_cast
        linarith
      have := h.even_of_half hhalf
      omega
  · -- beyond the largest scale even the least significand is too much
    refine iff_of_false ?_ (by omega)
    have hpow : (2 : ℚ) ^ (2045 + 1) ≤ 2 ^ s := pow_le_pow_right₀ (by norm_num) (by omega)
    have ha : 2 ^ 52 ≤ a := hlow.resolve_left (by omega)
    rw [pow_succ] at hpow
    have hpos : (0 : ℚ) < 2 ^ 2045 := by positivity
    generalize (2 : ℚ) ^ 2045 = p at hpow hpos ⊢
    generalize (2 : ℚ) ^ s = q at hpow ⊢
    nlinarith

/-- Below the limit the significand and the scale make the nearest number. -/
theorem isNearest (h : Scaled r a s m) (hlt : s * 2 ^ 52 + m < infinityMagnitude) :
    IsNearest ⟨UInt64.ofNat (s * 2 ^ 52 + m)⟩ r := by
  obtain ⟨hmag, hsign⟩ := bits_ofNat hlt.le
  have hunit : (0 : ℚ) < 2 ^ 1074 := by positivity
  have hr : 0 ≤ r := by
    rw [h.value]
    exact div_nonneg (mul_nonneg h.nonneg (by positivity)) hunit.le
  generalize (⟨UInt64.ofNat (s * 2 ^ 52 + m)⟩ : Binary64) = x at hmag hsign
  have hx : x.toRat = (m : ℚ) * 2 ^ s / 2 ^ 1074 := by
    rw [toRat_of_nonneg hsign, hmag, unitsOf_add h.significand_le h.le_significand]
    push_cast
    rfl
  have hdist : ∀ u : ℚ, |u / 2 ^ 1074 - r| = |u - a * 2 ^ s| / 2 ^ 1074 := by
    intro u
    rw [h.value, ← sub_div, abs_div, abs_of_pos hunit]
  -- a sign takes a number farther away, so it is enough to look at magnitudes
  have habs : ∀ y : Binary64, |(|y.toRat|) - r| ≤ |y.toRat - r| := by
    intro y
    have := abs_abs_sub_abs_le y.toRat r
    rwa [abs_of_nonneg hr] at this
  have hnear : ∀ y : Binary64, |x.toRat - r| ≤ |(|y.toRat|) - r| := by
    intro y
    rw [hx, abs_toRat, hdist, hdist]
    exact div_le_div_of_nonneg_right (h.nearest y).1 hunit.le
  refine ⟨hsign, ?_, fun y _ => (hnear y).trans (habs y), ?_⟩
  · unfold isFinite
    rw [decide_eq_true_eq, hmag]
    exact hlt
  · intro y _ htie
    have heven : m % 2 = 0 → x.significand % 2 = 0 := by
      intro hm
      rw [significand_mod_two, hmag]
      omega
    have hsame : |(|y.toRat|) - r| = |x.toRat - r| :=
      le_antisymm ((habs y).trans htie.le) (hnear y)
    rcases lt_or_ge y.toRat 0 with hneg | hpos
    · -- a negative number is as near as its opposite only if the quotient is zero
      rw [← htie, abs_of_neg hneg] at hsame
      have hzero : r = 0 := by
        rcases abs_eq_abs.1 hsame with he | he <;> linarith
      have hm := h.significand_eq_zero hzero
      exact .inr (heven (by omega))
    · rw [hx, abs_toRat, hdist, hdist, div_left_inj' hunit.ne'] at hsame
      rcases (h.nearest y).2 hsame with hunits | hm
      · left
        rw [hx, ← abs_of_nonneg hpos, abs_toRat, hunits]
        push_cast
        rfl
      · exact .inr (heven hm)

end Scaled

/-- The quotient at the scale that is chosen for it. -/
theorem scaled_ofRatio (num : Nat) {den : Nat} (hden : 0 < den) : ∃ a s m,
    Scaled (num / den) a s m ∧
      ofRatio num den = ⟨UInt64.ofNat (min infinityMagnitude (s * 2 ^ 52 + m))⟩ := by
  generalize hs : scaleFor num den = s
  have hpos : (0 : ℚ) < den * 2 ^ s := by positivity
  have hbounds : (s = 0 ∨ den * 2 ^ (s + 52) ≤ num * 2 ^ 1074) ∧
      num * 2 ^ 1074 < den * 2 ^ (s + 53) := by
    rcases Nat.eq_zero_or_pos num with rfl | hnum
    · have hzero : s = 0 := by
        rw [← hs, scaleFor, if_pos rfl]
      exact ⟨.inl hzero, by rw [Nat.zero_mul]; positivity⟩
    · rw [← hs]
      exact scaleFor_spec hnum hden
  have hunits : 0 < den * 2 ^ s := by positivity
  have herr := roundHalfEven_error (num * 2 ^ 1074) hunits
  simp only [Nat.cast_mul, Nat.cast_pow, Nat.cast_ofNat] at herr
  refine ⟨num * 2 ^ 1074 / (den * 2 ^ s), s, roundHalfEven (num * 2 ^ 1074) (den * 2 ^ s),
    ⟨?_, herr.1, herr.2, by positivity, ?_, ?_⟩, ?_⟩
  · have hpow : (0 : ℚ) < 2 ^ s := by positivity
    have hunit : (0 : ℚ) < 2 ^ 1074 := by positivity
    generalize (2 : ℚ) ^ 1074 = p at hunit ⊢
    field_simp
  · refine hbounds.1.imp id fun hle => ?_
    rw [le_div_iff₀ hpos]
    rw [pow_add, mul_comm (2 ^ s), mul_left_comm] at hle
    have hcast := (Nat.cast_le (α := ℚ)).2 hle
    simpa only [Nat.cast_mul, Nat.cast_pow, Nat.cast_ofNat] using hcast
  · have hlt := hbounds.2
    rw [div_lt_iff₀ hpos]
    rw [pow_add, mul_comm (2 ^ s), mul_left_comm] at hlt
    have hcast := (Nat.cast_lt (α := ℚ)).2 hlt
    simpa only [Nat.cast_mul, Nat.cast_pow, Nat.cast_ofNat] using hcast
  · rw [← hs]
    rfl

/-- What a quotient of natural numbers is rounded to. -/
theorem rounds_ofRatio (num : Nat) {den : Nat} (hden : 0 < den) :
    (ofRatio num den).Rounds (num / den) := by
  obtain ⟨a, s, m, h, heq⟩ := scaled_ofRatio num hden
  unfold Rounds
  rw [heq]
  split
  · next hlt =>
    have hfin := h.lt_overflow_iff.1 hlt
    rw [min_eq_right hfin.le]
    exact h.isNearest hfin
  · next hge =>
    rw [h.lt_overflow_iff, not_lt] at hge
    rw [min_eq_left hge]
    rfl

/-- Nothing else is what the quotient is rounded to. -/
theorem rounds_iff {num den : Nat} (hden : 0 < den) {x : Binary64} :
    x.Rounds (num / den) ↔ ofRatio num den = x := by
  have hround := rounds_ofRatio num hden
  constructor
  · intro hx
    unfold Rounds at hx hround
    split at hx
    · next hlt =>
      rw [if_pos hlt] at hround
      exact hround.unique hx
    · next hge =>
      rw [if_neg hge] at hround
      rw [hround, hx]
  · rintro rfl
    exact hround

end Binary64

end Tickscript
