import Mathlib.Data.List.TakeWhile
import Tickscript.Literal.Number

/-!
# Texts of numbers

`Number.read` makes several checks, each on the whole text, before it looks for the point. They
overlap, and together they let through just two kinds of text (`isWellFormed_iff`): digits, and
digits with one point among them. From here on nothing has to open `read` again: what it makes of
either kind, and of all the rest, is in `read_of_isWhole`, `read_of_isPointed` and
`read_of_neither`.
-/

namespace Tickscript

/-- Digits may stand in the magnitude of a duration. -/
theorem Duration.isMagnitude_of_isDigit {c : Char} (h : c.isDigit = true) :
    isMagnitude c = true := by
  unfold isMagnitude
  rw [h, Bool.true_or]

namespace Number

/-- A text of digits, at least one. -/
def IsWhole (cs : List Char) : Prop := cs ≠ [] ∧ ∀ c ∈ cs, c.isDigit = true

/-- A text of digits and just one point, with at least one digit. -/
structure IsPointed (cs : List Char) : Prop where
  digits : ∀ c ∈ cs, c.isDigit = true ∨ c = '.'
  one_point : cs.count '.' = 1
  some_digit : ∃ c ∈ cs, c.isDigit = true

theorem point_not_mem {cs : List Char} (h : ∀ c ∈ cs, c.isDigit = true) : '.' ∉ cs := by
  intro hmem
  exact absurd (h _ hmem) (by decide)

/-- Without points, digits and points are digits. -/
theorem isDigit_of_not_mem {cs : List Char} (h : ∀ c ∈ cs, c.isDigit = true ∨ c = '.')
    (hpoint : '.' ∉ cs) : ∀ c ∈ cs, c.isDigit = true := by
  intro c hc
  rcases h c hc with hdigit | rfl
  · exact hdigit
  · exact absurd hc hpoint

/-- A text with one point has digits on both sides of it, and on one side at least there are
some. -/
theorem IsPointed.sides {whole fraction : List Char} (h : IsPointed (whole ++ '.' :: fraction)) :
    (∀ c ∈ whole, c.isDigit = true) ∧ (∀ c ∈ fraction, c.isDigit = true) ∧
      (whole ≠ [] ∨ fraction ≠ []) := by
  have hcount := h.one_point
  rw [List.count_append, List.count_cons_self] at hcount
  have hwhole : '.' ∉ whole := List.count_eq_zero.1 (by omega)
  have hfraction : '.' ∉ fraction := List.count_eq_zero.1 (by omega)
  refine ⟨isDigit_of_not_mem ?_ hwhole, isDigit_of_not_mem ?_ hfraction, ?_⟩
  · exact fun c hc => h.digits c (List.mem_append_left _ hc)
  · exact fun c hc => h.digits c (List.mem_append_right _ (List.mem_cons_of_mem _ hc))
  · obtain ⟨c, hc, hdigit⟩ := h.some_digit
    rcases List.mem_append.1 hc with hc | hc
    · exact .inl (List.ne_nil_of_mem hc)
    · rcases List.mem_cons.1 hc with rfl | hc
      · exact absurd hdigit (by decide)
      · exact .inr (List.ne_nil_of_mem hc)

/-- Digits on either side of a point make a literal with a point, unless there are none at all. -/
theorem isPointed_of_sides {whole fraction : List Char} (hwhole : ∀ c ∈ whole, c.isDigit = true)
    (hfraction : ∀ c ∈ fraction, c.isDigit = true) (hne : whole ≠ [] ∨ fraction ≠ []) :
    IsPointed (whole ++ '.' :: fraction) := by
  refine ⟨?_, ?_, ?_⟩
  · intro c hc
    rcases List.mem_append.1 hc with hc | hc
    · exact .inl (hwhole c hc)
    · rcases List.mem_cons.1 hc with rfl | hc
      · exact .inr rfl
      · exact .inl (hfraction c hc)
  · rw [List.count_append, List.count_cons_self, List.count_eq_zero.2 (point_not_mem hwhole),
      List.count_eq_zero.2 (point_not_mem hfraction)]
  · rcases hne with hne | hne
    · obtain ⟨c, hc⟩ := List.exists_mem_of_ne_nil _ hne
      exact ⟨c, List.mem_append_left _ hc, hwhole c hc⟩
    · obtain ⟨c, hc⟩ := List.exists_mem_of_ne_nil _ hne
      exact ⟨c, List.mem_append_right _ (List.mem_cons_of_mem _ hc), hfraction c hc⟩

/-- A literal with a point has a side before it and a side behind it. -/
theorem IsPointed.exists_sides {cs : List Char} (h : IsPointed cs) :
    ∃ whole fraction, cs = whole ++ '.' :: fraction :=
  List.append_of_mem (List.count_pos_iff.1 (by rw [h.one_point]; omega))

/-! ## The checks -/

/-- Digits and points alone make no mark of base sixteen. -/
theorem hasHexMark_eq_false {cs : List Char} (h : ∀ c ∈ cs, Duration.isMagnitude c = true) :
    hasHexMark cs = false := by
  induction cs with
  | nil => rfl
  | cons c cs ih =>
    have hx : cs.head? ≠ some 'x' := by
      intro hhead
      have hmem := h 'x' (List.mem_cons_of_mem _ (List.mem_of_head? hhead))
      exact absurd hmem (by decide)
    rw [hasHexMark, ih fun d hd => h d (List.mem_cons_of_mem _ hd)]
    simp [hx]

/-- A magnitude is made of digits and points. -/
theorem isMagnitude_iff {c : Char} :
    Duration.isMagnitude c = true ↔ c.isDigit = true ∨ c = '.' := by
  unfold Duration.isMagnitude
  rw [Bool.or_eq_true, beq_iff_eq]

/-- What passes all checks is made of digits and at most one point, and there is a digit. -/
theorem isWellFormed_eq {cs : List Char} : isWellFormed cs = true ↔
    (∀ c ∈ cs, c.isDigit = true ∨ c = '.') ∧ cs.count '.' ≤ 1 ∧ ∃ c ∈ cs, c.isDigit = true := by
  simp only [isWellFormed, Bool.and_eq_true, Bool.not_eq_true', decide_eq_true_eq, bne_iff_ne,
    List.all_eq_true, ← isMagnitude_iff]
  constructor
  · rintro ⟨⟨⟨⟨-, hcount⟩, hne⟩, hpoint⟩, hall⟩
    refine ⟨hall, hcount, ?_⟩
    by_contra hno
    -- without a digit there are only points, and neither none nor one of them passes
    have hpoints : cs = List.replicate cs.length '.' := by
      refine List.eq_replicate_iff.2 ⟨rfl, fun c hc => ?_⟩
      rcases isMagnitude_iff.1 (hall c hc) with hdigit | hc
      · exact absurd ⟨c, hc, hdigit⟩ hno
      · exact hc
    rw [hpoints, List.count_replicate_self] at hcount
    match hlen : cs.length with
    | 0 => exact hne (List.eq_nil_of_length_eq_zero hlen)
    | 1 => rw [hlen] at hpoints; exact hpoint hpoints
    | n + 2 => omega
  · rintro ⟨hall, hcount, d, hd, hdigit⟩
    refine ⟨⟨⟨⟨hasHexMark_eq_false hall, hcount⟩, List.ne_nil_of_mem hd⟩, ?_⟩, hall⟩
    rintro rfl
    rw [List.mem_singleton.1 hd] at hdigit
    exact absurd hdigit (by decide)

/-- The checks let through digits, and digits with one point among them. -/
theorem isWellFormed_iff {cs : List Char} : isWellFormed cs = true ↔ IsWhole cs ∨ IsPointed cs := by
  rw [isWellFormed_eq]
  constructor
  · rintro ⟨hall, hcount, c, hc, hdigit⟩
    by_cases hzero : cs.count '.' = 0
    · left
      exact ⟨List.ne_nil_of_mem hc, isDigit_of_not_mem hall (List.count_eq_zero.1 hzero)⟩
    · right
      exact ⟨hall, by omega, c, hc, hdigit⟩
  · rintro (⟨hne, hdigits⟩ | h)
    · obtain ⟨c, hc⟩ := List.exists_mem_of_ne_nil _ hne
      refine ⟨fun c hc => .inl (hdigits c hc), ?_, c, hc, hdigits c hc⟩
      rw [List.count_eq_zero.2 (point_not_mem hdigits)]
      omega
    · exact ⟨h.digits, by rw [h.one_point], h.some_digit⟩

/-! ## What is read -/

theorem ne_point_of_digits {cs : List Char} (h : ∀ c ∈ cs, c.isDigit = true) :
    ∀ c ∈ cs, (c != '.') = true := by
  intro c hc
  rw [bne_iff_ne]
  rintro rfl
  exact point_not_mem h hc

/-- Digits are read as a whole number, unless it is too large. -/
theorem read_of_isWhole {text : String} (h : IsWhole text.toList) :
    read text = if Text.decimal text.toList ≤ maxInt then .ok (.int (Text.decimal text.toList))
      else .error (.illegalNumber text) := by
  have hwell : isWellFormed text.toList = true := isWellFormed_iff.2 (.inl h)
  have hdrop : text.toList.dropWhile (· != '.') = [] :=
    List.dropWhile_eq_nil_iff.2 (ne_point_of_digits h.2)
  simp only [read, hwell, hdrop, if_true]

/-- Digits around a point are read as their quotient. -/
theorem read_of_isPointed {text : String} {whole fraction : List Char} (h : IsPointed text.toList)
    (htext : text.toList = whole ++ '.' :: fraction) :
    read text = .ok (.float
      (.ofRatio (Text.decimal (whole ++ fraction)) (Nat.pow 10 fraction.length))) := by
  have hwell : isWellFormed text.toList = true := isWellFormed_iff.2 (.inr h)
  rw [htext] at h
  have hpoint := ne_point_of_digits h.sides.1
  have htake : text.toList.takeWhile (· != '.') = whole := by
    rw [htext, List.takeWhile_append_of_pos hpoint]
    simp
  have hdrop : text.toList.dropWhile (· != '.') = '.' :: fraction := by
    rw [htext, List.dropWhile_append_of_pos hpoint]
    simp
  simp only [read, hwell, htake, hdrop, if_true]

/-- Any other text is refused. -/
theorem read_of_neither {text : String} (h : ¬ (IsWhole text.toList ∨ IsPointed text.toList)) :
    read text = .error (.illegalNumber text) := by
  rw [← isWellFormed_iff] at h
  simp only [read, if_neg h]

end Number

end Tickscript
