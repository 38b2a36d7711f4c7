import Mathlib.Data.List.Count
import Mathlib.Data.List.Perm.Basic
import Mathlib.Data.String.Basic
import Mathlib.Tactic.SplitIfs
import Tickscript.Dbrp

/-!
# Lists of pairs as multisets

`sameAsSets` runs twice over one tally: the pairs of the first list are counted up, those of the
second down, and only the counts at the end are looked at. Two facts hold along both runs. A tally
has one entry for each pair (`Keyed`), so its entries are all zero only if every count is; and a run
moves the count of a pair by as much as the list has of it (`count_addEach`). At the end the count
of a pair is the difference of its numbers of occurrences, so the comparison says that the lists are
permutations of each other.

`sort` puts a list in the order of its fields, which compares characters. UTF-8 was made so that
this is the order of the bytes (`Text.utf8_lt_utf8`), and as this order is linear there is one
sorted permutation of a list, by which permutations can be told as well.
-/

namespace Tickscript

namespace Dbrp.Tally

/-- What a tally says about a pair: its count, or zero if the pair was not met. -/
def count (d : Dbrp) : Tally → Int
  | [] => 0
  | (e, m) :: rest => if e = d then m else count d rest

/-- A tally in which no pair has two entries. -/
def Keyed (t : Tally) : Prop := (t.map Prod.fst).Nodup

/-- An empty tally has no entries. -/
theorem keyed_nil : Keyed [] := List.nodup_nil

/-- Counting a pair moves its own count and no other. -/
theorem count_add (d e : Dbrp) (n : Int) (t : Tally) :
    (add e n t).count d = t.count d + if e = d then n else 0 := by
  fun_induction add e n t with
  | case1 => simp [count]
  | case2 m rest =>
    by_cases hd : e = d <;> simp [count, hd]
  | case3 e' m rest hne ih =>
    by_cases hd : e' = d
    · have he : e ≠ d := fun he => hne (hd.trans he.symm)
      simp [count, hd, he]
    · simp [count, hd, ih]

/-- Counting a pair adds no other. -/
theorem mem_keys_add {d e : Dbrp} {n : Int} {t : Tally} (h : d ∈ (add e n t).map Prod.fst) :
    d = e ∨ d ∈ t.map Prod.fst := by
  fun_induction add e n t with grind

/-- Counting keeps one entry for each pair. -/
theorem keyed_add {t : Tally} (h : t.Keyed) (e : Dbrp) (n : Int) : Keyed (add e n t) := by
  unfold Keyed at h ⊢
  fun_induction add e n t with
  | case1 => simp
  | case2 m rest => exact h
  | case3 e' m rest hne ih =>
    obtain ⟨hout, hrest⟩ := List.nodup_cons.1 h
    refine List.nodup_cons.2 ⟨fun hin => ?_, ih hrest⟩
    rcases mem_keys_add hin with heq | hmem
    · exact hne heq
    · exact hout hmem

/-- A run over a list moves the count of a pair once for each time the list has it. -/
theorem count_addEach (d : Dbrp) (n : Int) (ds : List Dbrp) (t : Tally) :
    (addEach n ds t).count d = t.count d + n * ds.count d := by
  induction ds generalizing t with
  | nil => simp [addEach]
  | cons e ds ih =>
    have hrun : addEach n (e :: ds) t = addEach n ds (add e n t) := rfl
    rw [hrun, ih, count_add, List.count_cons]
    by_cases hd : e = d <;> simp [hd]
    grind

/-- So does counting all pairs of a list. -/
theorem keyed_addEach {t : Tally} (h : t.Keyed) (n : Int) (ds : List Dbrp) :
    Keyed (addEach n ds t) := by
  induction ds generalizing t with
  | nil => exact h
  | cons e ds ih => exact ih (keyed_add h e n)

/-- A pair without an entry has the count zero. -/
theorem count_eq_zero_of_not_mem {d : Dbrp} {t : Tally} (h : d ∉ t.map Prod.fst) :
    t.count d = 0 := by
  fun_induction count d t with grind

/-- Every entry of a tally is at zero when every count is, as no entry hides another. -/
theorem all_zero_iff {t : Tally} (h : t.Keyed) :
    (t.all fun e => e.2 == 0) = true ↔ ∀ d, t.count d = 0 := by
  unfold Keyed at h
  induction t with
  | nil => simp [count]
  | cons e rest ih =>
    obtain ⟨hout, hrest⟩ := List.nodup_cons.1 h
    rw [List.all_cons, Bool.and_eq_true, ih hrest, beq_iff_eq]
    constructor
    · rintro ⟨hzero, hall⟩ d
      by_cases hd : e.1 = d <;> simp [count, hd, hzero, hall d]
    · intro hall
      refine ⟨by simpa [count] using hall e.1, fun d => ?_⟩
      by_cases hd : e.1 = d
      · exact count_eq_zero_of_not_mem (hd ▸ hout)
      · simpa [count, hd] using hall d

end Dbrp.Tally

/-- The comparison is equality up to permutation. Its length test is no more than a short cut: the
counts alone would decide the same. -/
theorem Dbrp.sameAsSets_iff_perm {as bs : List Dbrp} : sameAsSets as bs = true ↔ as.Perm bs := by
  have hkeyed : (Tally.addEach (-1) bs (Tally.addEach 1 as [])).Keyed :=
    Tally.keyed_addEach (Tally.keyed_addEach Tally.keyed_nil 1 as) (-1) bs
  have hcount (d : Dbrp) : (Tally.addEach (-1) bs (Tally.addEach 1 as [])).count d =
      as.count d - bs.count d := by
    rw [Tally.count_addEach, Tally.count_addEach]
    simp only [Tally.count]
    omega
  rw [sameAsSets, Bool.and_eq_true, beq_iff_eq, Tally.all_zero_iff hkeyed, List.perm_iff_count]
  constructor
  · rintro ⟨-, hzero⟩ d
    have hd := hzero d
    rw [hcount] at hd
    omega
  · intro hsame
    refine ⟨(List.perm_iff_count.2 hsame).length_eq, fun d => ?_⟩
    rw [hcount, hsame d]
    omega

namespace Text

/-- The bytes of a text in UTF-8. -/
def utf8 (s : String) : List UInt8 := s.toByteArray.data.toList

/-- The bytes of a text are those of its characters, one after another. -/
theorem utf8_eq_flatMap (s : String) : utf8 s = s.toList.flatMap String.utf8EncodeChar := by
  unfold utf8
  rw [← String.utf8Encode_toList, List.utf8Encode, List.toList_data_toByteArray]

/-- The bytes of a greater character are greater, whatever follows: a longer encoding has the
greater first byte, and of two that are as long the parts of the code decide in their order. -/
theorem utf8EncodeChar_append_lt {c d : Char} (h : c < d) (xs ys : List UInt8) :
    String.utf8EncodeChar c ++ xs < String.utf8EncodeChar d ++ ys := by
  have hlt : c.val.toNat < d.val.toNat := h
  have hmax : d.val.toNat < 0x110000 := by rcases d.valid with h | h <;> omega
  unfold String.utf8EncodeChar
  generalize c.val.toNat = m at hlt
  generalize d.val.toNat = n at hlt hmax
  dsimp only
  -- one to four bytes on either side; the greater character has no fewer
  split_ifs <;>
    simp (disch := omega) only [List.cons_append, List.cons_lt_cons_iff, UInt8.lt_iff_toNat_lt,
      ← UInt8.toNat_inj, UInt8.toNat_ofNat', Nat.mod_eq_of_lt] <;>
    omega

/-- Characters in order have bytes in order. -/
theorem flatMap_lt_flatMap {cs ds : List Char} (h : cs < ds) :
    cs.flatMap String.utf8EncodeChar < ds.flatMap String.utf8EncodeChar := by
  induction h with
  | @nil d ds =>
    obtain ⟨b, bs, hb⟩ := List.exists_cons_of_ne_nil (String.utf8EncodeChar_ne_nil (c := d))
    rw [List.flatMap_cons, hb]
    exact List.nil_lt_cons _ _
  | cons _ ih =>
    rw [List.flatMap_cons, List.flatMap_cons]
    exact List.append_left_lt ih
  | rel hcd => exact utf8EncodeChar_append_lt hcd _ _

/-- Texts are in the order of their bytes. -/
theorem utf8_lt_utf8 {s t : String} : utf8 s < utf8 t ↔ s < t := by
  rw [utf8_eq_flatMap, utf8_eq_flatMap, String.lt_iff]
  refine ⟨fun h => ?_, flatMap_lt_flatMap⟩
  -- of any two texts one is smaller or they are the same, and the bytes keep each case
  by_contra hnot
  rcases List.le_iff_lt_or_eq.1 (List.not_lt.1 hnot) with hgt | heq
  · exact List.lt_asymm h (flatMap_lt_flatMap hgt)
  · rw [heq] at h
    exact List.lt_irrefl _ h

end Text

namespace Dbrp

/-- The order of the fields by their bytes: the databases are compared first, and the retention
policies of one database second. -/
def Precedes (a b : Dbrp) : Prop :=
  Text.utf8 a.database < Text.utf8 b.database ∨
    a.database = b.database ∧ Text.utf8 a.retentionPolicy ≤ Text.utf8 b.retentionPolicy

/-- The bytes of the fields compare as the fields themselves do. -/
theorem precedes_iff {a b : Dbrp} : a.Precedes b ↔
    a.database < b.database ∨ a.database = b.database ∧ a.retentionPolicy ≤ b.retentionPolicy := by
  rw [Precedes, Text.utf8_lt_utf8, ← List.not_lt, Text.utf8_lt_utf8, not_lt]

/-- The comparison by characters is the order by bytes. -/
theorem le_iff_precedes {a b : Dbrp} : le a b = true ↔ a.Precedes b := by
  rw [precedes_iff]
  simp only [le, Bool.or_eq_true, Bool.and_eq_true, Bool.not_eq_true', decide_eq_true_eq,
    decide_eq_false_iff_not, not_lt]

/-- Of two pairs one precedes the other. -/
theorem precedes_total (a b : Dbrp) : a.Precedes b ∨ b.Precedes a := by
  rw [precedes_iff, precedes_iff]
  rcases lt_trichotomy a.database b.database with hlt | heq | hgt
  · exact .inl (.inl hlt)
  · rcases le_total a.retentionPolicy b.retentionPolicy with hle | hle
    · exact .inl (.inr ⟨heq, hle⟩)
    · exact .inr (.inr ⟨heq.symm, hle⟩)
  · exact .inr (.inl hgt)

theorem Precedes.trans {a b c : Dbrp} (hab : a.Precedes b) (hbc : b.Precedes c) :
    a.Precedes c := by
  rw [precedes_iff] at hab hbc ⊢
  rcases hab with hab | ⟨hab, hab'⟩ <;> rcases hbc with hbc | ⟨hbc, hbc'⟩
  · exact .inl (hab.trans hbc)
  · exact .inl (hbc ▸ hab)
  · exact .inl (hab ▸ hbc)
  · exact .inr ⟨hab.trans hbc, hab'.trans hbc'⟩

/-- Pairs that precede each other are the same. -/
theorem Precedes.antisymm {a b : Dbrp} (hab : a.Precedes b) (hba : b.Precedes a) : a = b := by
  rw [precedes_iff] at hab hba
  rcases hab with hab | ⟨heq, hab⟩ <;> rcases hba with hba | ⟨heq', hba⟩
  · exact absurd hba hab.asymm
  · exact absurd heq' hab.ne'
  · exact absurd heq hba.ne'
  · cases a
    cases b
    exact congrArg₂ Dbrp.mk heq (hab.antisymm hba)

/-- A sorted list is in the order of the fields. -/
theorem pairwise_sort (as : List Dbrp) : (sort as).Pairwise Precedes := by
  have hpairs : (sort as).Pairwise fun a b => le a b = true := by
    apply List.pairwise_mergeSort
    · intro a b c hab hbc
      rw [le_iff_precedes] at hab hbc ⊢
      exact hab.trans hbc
    · intro a b
      rw [Bool.or_eq_true, le_iff_precedes, le_iff_precedes]
      exact precedes_total a b
  exact hpairs.imp le_iff_precedes.1

/-- A list in order is the only permutation of it in which each pair precedes the later ones. -/
theorem eq_sort_iff {as l : List Dbrp} : l = sort as ↔ l.Perm as ∧ l.Pairwise Precedes := by
  have hperm : (sort as).Perm as := List.mergeSort_perm as le
  constructor
  · rintro rfl
    exact ⟨hperm, pairwise_sort as⟩
  · rintro ⟨hl, hpairs⟩
    have hsame : l.Perm (sort as) := hl.trans hperm.symm
    exact hsame.eq_of_pairwise (fun a b _ _ => Precedes.antisymm) hpairs (pairwise_sort as)

/-- Two lists are permutations of each other just if they are the same when sorted. -/
theorem perm_iff_sort_eq {as bs : List Dbrp} : as.Perm bs ↔ sort as = sort bs := by
  constructor
  · intro h
    obtain ⟨hperm, hpairs⟩ := eq_sort_iff.1 (rfl : sort as = sort as)
    exact eq_sort_iff.2 ⟨hperm.trans h, hpairs⟩
  · intro h
    exact (eq_sort_iff.1 rfl).1.symm.trans (eq_sort_iff.1 h).1

/-- The comparison holds between the permutations of a list, so between the lists that are the same
in order, and is an equivalence. -/
theorem sameAsSets_multiset :
    (∀ as bs : List Dbrp, sameAsSets as bs = true ↔ as.Perm bs) ∧
    (∀ as bs : List Dbrp, as.Perm bs ↔ sort as = sort bs) ∧
    (∀ as l : List Dbrp, l = sort as ↔ l.Perm as ∧ l.Pairwise Precedes) ∧
    Equivalence fun as bs => sameAsSets as bs = true := by
  refine ⟨fun as bs => sameAsSets_iff_perm, fun as bs => perm_iff_sort_eq,
    fun as l => eq_sort_iff, ?_, ?_, ?_⟩
  · intro as
    exact sameAsSets_iff_perm.2 (List.Perm.refl as)
  · intro as bs h
    exact sameAsSets_iff_perm.2 (sameAsSets_iff_perm.1 h).symm
  · intro as bs cs hab hbc
    exact sameAsSets_iff_perm.2 ((sameAsSets_iff_perm.1 hab).trans (sameAsSets_iff_perm.1 hbc))

end Dbrp

end Tickscript
