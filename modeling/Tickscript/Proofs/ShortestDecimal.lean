import Mathlib.Tactic
import Tickscript.Proofs.NumberLiterals

/-!
# Floating-point numbers read back

A finite number is written with as few digits as tell it apart from all others, and reading these
digits rounds to the number again. Three facts carry this. A quotient in the rounding interval of a
number rounds to it (`Binary64.ofRatio_eq`): its scale is that of the number, or one less below a
power of two, where the carry of the significand makes up for it. The decimal that is found lies in
the interval. And one is always found, because the finest grid has the number itself on it.
-/

namespace Tickscript

/-! ## Rounding -/

/-- Within half a unit of `m`, and exactly half a unit away only if `m` is even, rounding gives
`m`. -/
theorem roundHalfEven_eq {num den m : Nat} (hlow : 2 * m * den ≤ 2 * num + den)
    (hhigh : 2 * num ≤ 2 * m * den + den) (hpos : 0 < den)
    (heven : m % 2 = 1 → 2 * m * den ≠ 2 * num + den ∧ 2 * num ≠ 2 * m * den + den) :
    roundHalfEven num den = m := by
  have hdiv := Nat.div_add_mod num den
  have hmod := Nat.mod_lt num hpos
  unfold roundHalfEven
  generalize num / den = q at *
  generalize num % den = r at *
  have hle : q ≤ m := by
    by_contra hlt
    have : den * (m + 1) ≤ den * q := Nat.mul_le_mul_left _ (by omega)
    nlinarith
  have hge : m ≤ q + 1 := by
    by_contra hlt
    have : den * (q + 2) ≤ den * m := Nat.mul_le_mul_left _ (by omega)
    nlinarith
  obtain rfl | rfl : m = q ∨ m = q + 1 := by omega
  · have hr : 2 * r ≤ den := by nlinarith
    have hodd : m % 2 = 1 → 2 * r ≠ den := fun h he => (heven h).2 (by nlinarith)
    dsimp only
    split
    · rfl
    · split
      · omega
      · have : m % 2 = 0 := by
          by_contra h
          exact hodd (by omega) (by omega)
        omega
  · have hr : den ≤ 2 * r := by nlinarith
    have hodd : (q + 1) % 2 = 1 → 2 * r ≠ den := fun h he => (heven h).1 (by nlinarith)
    dsimp only
    split
    · omega
    · split
      · rfl
      · have : q % 2 = 1 := by
          by_contra h
          exact hodd (by omega) (by omega)
        omega

namespace Binary64

/-- The scale of a positive quotient leaves a significand of 53 bits, or of fewer at the least
scale. -/
theorem scaleFor_spec {num den : Nat} (hnum : 0 < num) (hden : 0 < den) :
    (scaleFor num den = 0 ∨ den * 2 ^ (scaleFor num den + 52) ≤ num * 2 ^ 1074) ∧
      num * 2 ^ 1074 < den * 2 ^ (scaleFor num den + 53) := by
  have hn := Nat.log2_self_le (n := num) (by omega)
  have hn' := Nat.lt_log2_self (n := num)
  have hd := Nat.log2_self_le (n := den) (by omega)
  have hd' := Nat.lt_log2_self (n := den)
  unfold scaleFor
  simp only [Nat.pow_eq, -Nat.reducePow]
  generalize num.log2 = a at *
  generalize den.log2 = d at *
  generalize (1074 : Nat) = offset
  -- with both lengths known, the quotient lies between two neighbouring powers
  have hbelow : ∀ k, a + 1 + offset ≤ d + k → num * 2 ^ offset < den * 2 ^ k := by
    intro k hk
    calc num * 2 ^ offset < 2 ^ (a + 1) * 2 ^ offset :=
          Nat.mul_lt_mul_of_pos_right hn' (by positivity)
      _ = 2 ^ (a + 1 + offset) := (pow_add ..).symm
      _ ≤ 2 ^ (d + k) := Nat.pow_le_pow_right (by norm_num) hk
      _ = 2 ^ d * 2 ^ k := pow_add ..
      _ ≤ den * 2 ^ k := Nat.mul_le_mul_right _ hd
  have habove : ∀ k, d + 1 + k ≤ a + offset → den * 2 ^ k ≤ num * 2 ^ offset := by
    intro k hk
    calc den * 2 ^ k ≤ 2 ^ (d + 1) * 2 ^ k := Nat.mul_le_mul_right _ hd'.le
      _ = 2 ^ (d + 1 + k) := (pow_add ..).symm
      _ ≤ 2 ^ (a + offset) := Nat.pow_le_pow_right (by norm_num) hk
      _ = 2 ^ a * 2 ^ offset := pow_add ..
      _ ≤ num * 2 ^ offset := Nat.mul_le_mul_right _ hn
  rw [if_neg (by omega)]
  split
  · next hlt =>
    rcases Nat.eq_zero_or_pos (a + offset - (d + 52)) with he | he
    · rw [he] at hlt ⊢
      refine ⟨.inl rfl, lt_of_lt_of_le hlt ?_⟩
      exact Nat.mul_le_mul_left _ (Nat.pow_le_pow_right (by norm_num) (by omega))
    · refine ⟨.inr (habove _ (by omega)), ?_⟩
      rwa [show a + offset - (d + 52) - 1 + 53 = a + offset - (d + 52) + 52 by omega]
  · next hge => exact ⟨.inr (not_lt.1 hge), hbelow _ (by omega)⟩

/-- Only one scale fits a quotient. -/
theorem scaleFor_eq {num den s : Nat} (hnum : 0 < num) (hden : 0 < den)
    (hlow : s = 0 ∨ den * 2 ^ (s + 52) ≤ num * 2 ^ 1074)
    (hhigh : num * 2 ^ 1074 < den * 2 ^ (s + 53)) : scaleFor num den = s := by
  obtain ⟨hlow', hhigh'⟩ := scaleFor_spec hnum hden
  generalize scaleFor num den = t at *
  have hlt : ∀ {i j : Nat}, (j = 0 ∨ den * 2 ^ (j + 52) ≤ num * 2 ^ 1074) →
      num * 2 ^ 1074 < den * 2 ^ (i + 53) → j ≤ i := by
    intro i j hj hi
    rcases hj with rfl | hj
    · exact Nat.zero_le i
    · by_contra hij
      have hpow : 2 ^ (i + 53) ≤ 2 ^ (j + 52) := Nat.pow_le_pow_right (by norm_num) (by omega)
      have := Nat.mul_le_mul_left den hpow
      omega
  exact le_antisymm (hlt hlow' hhigh) (hlt hlow hhigh')

/-! ## The bits of a number -/

variable {x : Binary64}

/-- Scale and significand make up the magnitude. -/
theorem magnitude_eq (x : Binary64) : x.scale * 2 ^ 52 + x.significand = x.magnitude := by
  simp only [scale, significand, Nat.pow_eq]
  have := Nat.div_add_mod x.magnitude (2 ^ 52)
  split <;> omega

/-- A significand has 53 bits at most. -/
theorem significand_lt (x : Binary64) : x.significand < 2 ^ 53 := by
  simp only [significand, Nat.pow_eq]
  split <;> omega

/-- Above the least scale a significand has all its bits. -/
theorem le_significand (h : 0 < x.scale) : 2 ^ 52 ≤ x.significand := by
  simp only [scale, Nat.pow_eq] at h
  simp only [significand, Nat.pow_eq]
  split <;> omega

/-- Only zero has the significand zero. -/
theorem significand_pos (h : x.magnitude ≠ 0) : 0 < x.significand := by
  simp only [significand, Nat.pow_eq]
  split <;> omega

theorem magnitude_of_nonneg (h : x.isNegative = false) : x.magnitude = x.bits.toNat := by
  have : ¬ 2 ^ 63 ≤ x.bits.toNat := by simpa [isNegative] using h
  exact Nat.mod_eq_of_lt (not_le.1 this)

/-- A number without a sign is its magnitude. -/
theorem eq_of_magnitude (h : x.isNegative = false) {n : Nat} (hn : n = x.magnitude) :
    (⟨UInt64.ofNat n⟩ : Binary64) = x := by
  rw [hn, magnitude_of_nonneg h, UInt64.ofNat_toNat]

/-- The significand and the scale of a number are found from any quotient that is nearer to it than
to its neighbours. -/
theorem scaleFor_add_round {num den m s below : Nat} (hden : 0 < den) (hm : 0 < m)
    (hm53 : m < 2 ^ 53) (hm52 : 0 < s → 2 ^ 52 ≤ m)
    (hbelow : below = if m = 2 ^ 52 ∧ 0 < s then 1 else 2)
    (hlow : (4 * m - below) * (den * 2 ^ s) ≤ 4 * (num * 2 ^ 1074))
    (hhigh : 4 * (num * 2 ^ 1074) ≤ (4 * m + 2) * (den * 2 ^ s))
    (hodd : m % 2 = 1 → (4 * m - below) * (den * 2 ^ s) ≠ 4 * (num * 2 ^ 1074) ∧
      4 * (num * 2 ^ 1074) ≠ (4 * m + 2) * (den * 2 ^ s)) :
    scaleFor num den * 2 ^ 52 + roundHalfEven (num * 2 ^ 1074) (den * 2 ^ scaleFor num den) =
      s * 2 ^ 52 + m := by
  have hunit : 0 < den * 2 ^ s := by positivity
  have hnum : 0 < num := by
    by_contra h
    have hpos : 0 < (4 * m - below) * (den * 2 ^ s) :=
      Nat.mul_pos (by split at hbelow <;> omega) hunit
    simp only [show num = 0 by omega, Nat.zero_mul, Nat.mul_zero] at hlow
    omega
  have hsplit : ∀ k, den * 2 ^ (s + k) = den * 2 ^ s * 2 ^ k := fun k => by rw [pow_add, mul_assoc]
  have hspec := @scaleFor_eq num den
  generalize num * 2 ^ 1074 = n at *
  -- the case in which the quotient has the scale of the number
  have hsame : s = 0 ∨ den * 2 ^ (s + 52) ≤ n → scaleFor num den * 2 ^ 52 +
      roundHalfEven n (den * 2 ^ scaleFor num den) = s * 2 ^ 52 + m := by
    intro hle
    rw [hspec hnum hden hle (by rw [hsplit]; norm_num at hm53 ⊢; nlinarith)]
    generalize den * 2 ^ s = u at *
    have hlow' : 2 * m * u ≤ 2 * n + u := by
      have : 4 * m * u ≤ (4 * m - below) * u + 2 * u := by
        rw [← Nat.add_mul]
        exact Nat.mul_le_mul_right _ (by split at hbelow <;> omega)
      nlinarith
    rw [roundHalfEven_eq hlow' (by nlinarith) hunit]
    intro h
    obtain ⟨h₁, h₂⟩ := hodd h
    rw [if_neg (by omega)] at hbelow
    subst hbelow
    refine ⟨fun he => h₁ ?_, fun he => h₂ (by nlinarith)⟩
    zify [show 2 ≤ 4 * m by omega] at he ⊢
    nlinarith
  by_cases hs : 0 < s
  · by_cases hpow : m = 2 ^ 52
    · rw [if_pos ⟨hpow, hs⟩] at hbelow
      by_cases hle : den * 2 ^ (s + 52) ≤ n
      · exact hsame (.inr hle)
      · -- just below a power of two the quotient has one scale less, and rounding carries
        obtain ⟨t, rfl⟩ : ∃ t, s = t + 1 := ⟨s - 1, by omega⟩
        have hhalf : den * 2 ^ (t + 1) = 2 * (den * 2 ^ t) := by rw [pow_succ]; ring
        rw [hsplit, hhalf] at hle
        rw [hhalf] at hlow hunit
        subst hbelow hpow
        rw [hspec hnum hden (s := t) (.inr ?_) ?_]
        · rw [roundHalfEven_eq (m := 2 ^ 53)]
          · ring
          · norm_num at hlow ⊢; nlinarith
          · norm_num at hle ⊢; nlinarith
          · omega
          · norm_num
        · rw [pow_add, ← mul_assoc]
          norm_num at hlow ⊢
          nlinarith
        · rw [pow_add, ← mul_assoc]
          norm_num at hle ⊢
          nlinarith
    · refine hsame (.inr ?_)
      rw [if_neg (by omega)] at hbelow
      have hge : 4 * 2 ^ 52 * (den * 2 ^ s) ≤ (4 * m - below) * (den * 2 ^ s) :=
        Nat.mul_le_mul_right _ (by have := hm52 hs; omega)
      rw [hsplit]
      norm_num at hge ⊢
      nlinarith
  · exact hsame (.inl (by omega))

/-- Whether a quotient lies in the rounding interval of a number. -/
def roundsFrom (x : Binary64) (num den : Nat) : Prop :=
  let r := RoundingInterval.of x
  if r.closed then r.low * den ≤ 4 * (num * 2 ^ 1074) ∧ 4 * (num * 2 ^ 1074) ≤ r.high * den
  else r.low * den < 4 * (num * 2 ^ 1074) ∧ 4 * (num * 2 ^ 1074) < r.high * den

/-- A quotient in the rounding interval of a number rounds to it. -/
theorem ofRatio_eq (hsign : x.isNegative = false) (hfin : x.isFinite = true)
    (hpos : x.magnitude ≠ 0) {num den : Nat} (hden : 0 < den) (h : x.roundsFrom num den) :
    ofRatio num den = x := by
  have hinf : x.magnitude < infinityMagnitude := by simpa [isFinite] using hfin
  have hcomm : ∀ k, k * 2 ^ x.scale * den = k * (den * 2 ^ x.scale) := fun k => by ring
  simp only [roundsFrom, RoundingInterval.of, decide_eq_true_eq, Nat.pow_eq, hcomm] at h
  have hsum : scaleFor num den * 2 ^ 52 +
      roundHalfEven (num * 2 ^ 1074) (den * 2 ^ scaleFor num den) = x.magnitude := by
    rw [← x.magnitude_eq]
    refine scaleFor_add_round hden (significand_pos hpos) x.significand_lt le_significand rfl
      ?_ ?_ ?_
    · split at h
      · exact h.1
      · exact h.1.le
    · split at h
      · exact h.2
      · exact h.2.le
    · intro hodd
      rw [if_neg (by omega)] at h
      exact ⟨h.1.ne, h.2.ne⟩
  simp only [ofRatio, Nat.pow_eq, hsum, min_eq_right hinf.le, -Nat.reducePow]
  exact eq_of_magnitude hsign rfl

end Binary64

/-! ## Grids -/

namespace RoundingInterval

/-- Intervals are counted in quarters of the least positive number. -/
theorem of_den (x : Binary64) : (of x).den = 4 * 2 ^ 1074 := by
  simp only [of, Nat.pow_eq, -Nat.reducePow]

/-- A multiple that is chosen lies in the interval. -/
theorem contains_of_nearest? {r : RoundingInterval} {a : Nat} (h : r.nearest? = some a) :
    r.contains a = true := by
  unfold nearest? at h
  dsimp only at h
  cases h₁ : r.contains (r.value / r.den) <;> cases h₂ : r.contains (r.value / r.den + 1) <;>
    simp only [h₁, h₂, Option.some.injEq, reduceCtorEq] at h
  · rwa [← h]
  · rwa [← h]
  · split at h <;> cases h
    · exact h₁
    · exact h₂

/-- If the multiple below the value lies in the interval, some multiple is chosen. -/
theorem nearest?_isSome {r : RoundingInterval} (h : r.contains (r.value / r.den) = true) :
    r.nearest?.isSome = true := by
  unfold nearest?
  dsimp only
  rw [h]
  split
  · split <;> rfl
  · rfl
  · next h' _ => cases h'
  · next h' _ => cases h'

/-- What is found lies on its grid and in the interval. -/
theorem contains_of_coarsest? {r : RoundingInterval} {n : Nat} {s : Int} {d : Decimal}
    (h : r.coarsest? s n = some d) : (r.onGrid d.exponent).contains d.digits = true := by
  induction n generalizing s with
  | zero => cases h
  | succ n ih =>
    rw [coarsest?] at h
    split at h
    · next a ha =>
      cases h
      exact contains_of_nearest? ha
    · exact ih h

/-- A grid with a point in the interval is enough. -/
theorem coarsest?_isSome {r : RoundingInterval} {n k : Nat} {s : Int} (hk : k < n)
    (h : (r.onGrid (s - k)).nearest?.isSome = true) : (r.coarsest? s n).isSome = true := by
  induction n generalizing s k with
  | zero => omega
  | succ n ih =>
    rw [coarsest?]
    split
    · rfl
    · next hnone =>
      cases k with
      | zero =>
        rw [show s - ((0 : Nat) : Int) = s by simp, hnone] at h
        cases h
      | succ k =>
        refine ih (k := k) (by omega) ?_
        rwa [show s - 1 - (k : Int) = s - ((k + 1 : Nat) : Int) by push_cast; omega]

/-- A value of this denominator is itself a point of the grid with as many places. -/
theorem nearest?_onGrid {r : RoundingInterval} {n k : Nat} (hlow : r.low < r.value)
    (hhigh : r.value < r.high) (hvalue : r.value = 4 * k) (hden : r.den = 4 * 2 ^ (n + 1)) :
    (r.onGrid (.negSucc n)).nearest?.isSome = true := by
  have hexact : r.value * 10 ^ (n + 1) = k * 5 ^ (n + 1) * r.den := by
    rw [hvalue, hden, show (10 : Nat) = 5 * 2 by norm_num, mul_pow]
    ring
  have hden' : 0 < r.den := by rw [hden]; positivity
  have hgrid : r.onGrid (.negSucc n) = ⟨r.low * 10 ^ (n + 1), r.value * 10 ^ (n + 1),
      r.high * 10 ^ (n + 1), r.den, r.closed⟩ := rfl
  refine nearest?_isSome ?_
  rw [hgrid, contains]
  dsimp only
  rw [hexact, Nat.mul_div_cancel _ hden', ← hexact]
  have h₁ : r.low * 10 ^ (n + 1) < r.value * 10 ^ (n + 1) :=
    Nat.mul_lt_mul_of_pos_right hlow (by positivity)
  have h₂ : r.value * 10 ^ (n + 1) < r.high * 10 ^ (n + 1) :=
    Nat.mul_lt_mul_of_pos_right hhigh (by positivity)
  split <;> simp [h₁, h₂, h₁.le, h₂.le]

end RoundingInterval

namespace Binary64

variable {x : Binary64}

/-- Some decimal is found for every positive number. -/
theorem shortest?_isSome (hpos : x.magnitude ≠ 0) : x.shortest?.isSome = true := by
  have hm := significand_pos hpos
  refine RoundingInterval.coarsest?_isSome (k := 1383) (by norm_num)
    (RoundingInterval.nearest?_onGrid (n := 1073) (k := x.significand * 2 ^ x.scale) ?_ ?_ ?_ ?_)
  · refine Nat.mul_lt_mul_of_pos_right ?_ (Nat.two_pow_pos _)
    split <;> omega
  · exact Nat.mul_lt_mul_of_pos_right (by omega) (Nat.two_pow_pos _)
  · exact mul_assoc ..
  · rw [RoundingInterval.of_den, show 1073 + 1 = 1074 by norm_num]

/-- The decimal that is found, read as a quotient, rounds to the number. -/
theorem roundsFrom_shortest {d : Decimal} (h : x.shortest? = some d) (k : Nat) :
    match d.exponent with
    | .ofNat n => x.roundsFrom (d.digits * 10 ^ n * 10 ^ k) (10 ^ k)
    | .negSucc n => x.roundsFrom d.digits (10 ^ (n + 1)) := by
  have hin := RoundingInterval.contains_of_coarsest? h
  have hk : 0 < 10 ^ k := by positivity
  unfold roundsFrom
  have hden := RoundingInterval.of_den x
  generalize RoundingInterval.of x = r at hin hden
  obtain ⟨a, s⟩ := d
  generalize 2 ^ 1074 = p at *
  cases s with
  | ofNat n =>
    simp only [RoundingInterval.onGrid, RoundingInterval.contains, hden] at hin ⊢
    have hmul : 4 * (a * 10 ^ n * 10 ^ k * p) = a * (4 * p * 10 ^ n) * 10 ^ k := by ring
    rw [hmul]
    split <;> simp_all
  | negSucc n =>
    simp only [RoundingInterval.onGrid, RoundingInterval.contains, hden] at hin ⊢
    have hmul : 4 * (a * p) = a * (4 * p) := by ring
    rw [hmul]
    split <;> simp_all

end Binary64

/-! ## Digits -/

namespace Text

/-- Reading on from a number appends digits to it. -/
theorem decimalFrom_eq (acc : Nat) (cs : List Char) :
    decimalFrom acc cs = acc * 10 ^ cs.length + decimal cs := by
  induction cs generalizing acc with
  | nil => simp [decimal, decimalFrom]
  | cons c cs ih =>
    have h₁ : decimalFrom acc (c :: cs) = decimalFrom (10 * acc + digitValue c) cs := rfl
    have h₂ : decimal (c :: cs) = decimalFrom (digitValue c) cs := by
      simp [decimal, decimalFrom]
    rw [h₁, h₂, ih, ih, List.length_cons, pow_succ]
    ring

/-- Digits are read as a number part by part. -/
theorem decimal_append_eq (cs ds : List Char) :
    decimal (cs ++ ds) = decimal cs * 10 ^ ds.length + decimal ds := by
  rw [decimal_append, decimalFrom_eq]

theorem decimal_zeros (n : Nat) : decimal (List.replicate n '0') = 0 := by
  induction n with
  | zero => rfl
  | succ n ih => rw [List.replicate_succ', decimal_append_eq, ih]; rfl

/-- Each digit is read as what it stands for. -/
theorem digitValue_digitChar {d : Nat} (h : d < 10) : digitValue d.digitChar = d := by
  interval_cases d <;> rfl

/-- The digits of a number read as the number. -/
theorem decimal_toDigits (n : Nat) : decimal (Nat.toDigits 10 n) = n := by
  induction n using Nat.strongRecOn with
  | _ n ih =>
    rw [Nat.toDigits_eq_if (by norm_num)]
    split
    · next h => simpa [decimal, decimalFrom] using digitValue_digitChar h
    · next h =>
      rw [decimal_append_eq, ih (n / 10) (by omega)]
      have hlast : decimal [(n % 10).digitChar] = n % 10 := by
        simpa [decimal, decimalFrom] using digitValue_digitChar (Nat.mod_lt n (by norm_num))
      simp only [List.length_singleton, pow_one, hlast]
      omega

theorem isDigit_toDigits {n : Nat} : ∀ c ∈ Nat.toDigits 10 n, c.isDigit = true :=
  fun _ h => Nat.isDigit_of_mem_toDigits (by norm_num) (by norm_num) h

theorem isDigit_zeros {n : Nat} : ∀ c ∈ List.replicate n '0', c.isDigit = true := by
  intro c hc
  rw [List.eq_of_mem_replicate hc]
  rfl

end Text

/-! ## Texts -/

/-- A number between digits and a point: what stands before the point and behind it. -/
structure PointedDigits (text : List Char) (whole fraction : List Char) : Prop where
  text_eq : text = whole ++ '.' :: fraction
  whole_ne : whole ≠ []
  whole_digits : ∀ c ∈ whole, c.isDigit = true
  fraction_digits : ∀ c ∈ fraction, c.isDigit = true

/-- Digits around a point are read as their quotient. -/
theorem PointedDigits.read {text whole fraction : List Char}
    (h : PointedDigits text whole fraction) :
    Number.read (String.ofList text) = .ok (.float (.ofRatio (Text.decimal (whole ++ fraction))
      (10 ^ fraction.length))) := by
  have htext : (String.ofList text).toList = whole ++ '.' :: fraction := by
    rw [String.toList_ofList, h.text_eq]
  refine Number.read_of_isPointed ?_ htext
  rw [htext]
  exact Number.isPointed_of_sides h.whole_digits h.fraction_digits (.inl h.whole_ne)

/-- A decimal with a point, which is added if it is missing. -/
theorem pointedDigits_positional (d : Decimal) :
    let text := if d.positional.toList.contains '.' then d.positional else d.positional ++ ".0"
    ∃ whole fraction, PointedDigits text.toList whole fraction ∧
      match d.exponent with
      | .ofNat n => Text.decimal (whole ++ fraction) = d.digits * 10 ^ n * 10 ∧ fraction.length = 1
      | .negSucc n => Text.decimal (whole ++ fraction) = d.digits ∧ fraction.length = n + 1 := by
  obtain ⟨a, s⟩ := d
  have hdigits := Text.isDigit_toDigits (n := a)
  cases s with
  | ofNat n =>
    -- a whole number: zeros fill it up to the point, which is then added with one more
    have hall : ∀ c ∈ Nat.toDigits 10 a ++ List.replicate n '0', c.isDigit = true := by
      intro c hc
      rcases List.mem_append.1 hc with h | h
      · exact hdigits c h
      · exact Text.isDigit_zeros c h
    have hpoint : (Nat.toDigits 10 a ++ List.replicate n '0').contains '.' = false := by
      rw [List.contains_eq_mem, decide_eq_false_iff_not]
      intro h
      exact absurd (hall _ h) (by decide)
    refine ⟨Nat.toDigits 10 a ++ List.replicate n '0', ['0'], ⟨?_, ?_, hall, by simp⟩, ?_, rfl⟩
    · have htext : (Decimal.positional ⟨a, .ofNat n⟩).toList =
          Nat.toDigits 10 a ++ List.replicate n '0' := by
        simp [Decimal.positional]
      rw [if_neg (by rw [htext, hpoint]; simp), String.toList_append, htext]
      rfl
    · simp [Nat.toDigits_ne_nil]
    · rw [Text.decimal_append_eq, Text.decimal_append_eq, Text.decimal_toDigits, Text.decimal_zeros]
      simp [Text.decimal, Text.decimalFrom, Text.digitValue]
  | negSucc n =>
    -- zeros in front, so that at least one digit is left of the point when `n + 1` are behind it
    generalize hpadded : List.replicate (n + 1 + 1 - (Nat.toDigits 10 a).length) '0' ++
      Nat.toDigits 10 a = padded
    have hall : ∀ c ∈ padded, c.isDigit = true := by
      intro c hc
      rw [← hpadded] at hc
      rcases List.mem_append.1 hc with h | h
      · exact Text.isDigit_zeros c h
      · exact hdigits c h
    have hlen : n + 2 ≤ padded.length := by
      rw [← hpadded, List.length_append, List.length_replicate]
      omega
    have hvalue : Text.decimal padded = a := by
      rw [← hpadded, Text.decimal_append_eq, Text.decimal_zeros, Text.decimal_toDigits]
      simp
    have htext : (Decimal.positional ⟨a, .negSucc n⟩).toList =
        padded.take (padded.length - (n + 1)) ++ '.' :: padded.drop (padded.length - (n + 1)) := by
      simp [Decimal.positional, hpadded]
    refine ⟨padded.take (padded.length - (n + 1)), padded.drop (padded.length - (n + 1)),
      ⟨?_, ?_, fun c hc => hall c (List.mem_of_mem_take hc),
        fun c hc => hall c (List.mem_of_mem_drop hc)⟩, ?_, ?_⟩
    · rw [if_pos (by rw [htext]; simp), htext]
    · intro h
      have := congrArg List.length h
      simp only [List.length_take, List.length_nil] at this
      omega
    · rw [List.take_append_drop, hvalue]
    · rw [List.length_drop]
      omega

/-- A finite number is written with a point between digits, and reads back. -/
theorem Number.read_render_float {x : Binary64} (hsign : x.isNegative = false)
    (hfin : x.isFinite = true) :
    (∃ whole fraction, PointedDigits (Number.render (.float x)).toList whole fraction) ∧
      Number.read (Number.render (.float x)) = .ok (.float x) := by
  by_cases hpos : x.magnitude = 0
  · have hzero : x = ⟨UInt64.ofNat 0⟩ := (Binary64.eq_of_magnitude hsign hpos.symm).symm
    have htext : Number.render (.float x) = String.ofList ['0', '.', '0'] := by
      simp [Number.render, Binary64.render, hfin, hpos]
    have hpoint : PointedDigits ['0', '.', '0'] ['0'] ['0'] := ⟨rfl, by simp, by simp, by simp⟩
    rw [htext, hpoint.read, hzero]
    refine ⟨⟨['0'], ['0'], by simpa using hpoint⟩, ?_⟩
    decide +kernel
  · obtain ⟨d, hd⟩ := Option.isSome_iff_exists.1 (Binary64.shortest?_isSome hpos)
    obtain ⟨whole, fraction, hpoint, hvalue⟩ := pointedDigits_positional d
    have htext : Number.render (.float x) =
        if d.positional.toList.contains '.' then d.positional else d.positional ++ ".0" := by
      simp only [Number.render, Binary64.render, hfin, hpos, hd, if_true, if_false]
    rw [← htext] at hpoint
    refine ⟨⟨whole, fraction, hpoint⟩, ?_⟩
    have hread := hpoint.read
    rw [String.ofList_toList] at hread
    have hin := Binary64.roundsFrom_shortest hd 1
    rw [hread, Binary64.ofRatio_eq hsign hfin hpos (by positivity)]
    generalize d.exponent = s at hvalue hin
    cases s with
    | ofNat n =>
      rw [hvalue.1, hvalue.2]
      simpa using hin
    | negSucc n =>
      rw [hvalue.1, hvalue.2]
      exact hin

end Tickscript
