import Mathlib.Tactic

/-!
# Edits of keyed lists

An *edit* changes the elements of a list that have some key, and adds an element if there is none
with that key. This is what a request does to a store that keeps its resources in lists.

Edits that overwrite what they set can be repeated. What one of them sets is lost to the next that
sets the same, so a row of edits does to an element what it does to an element that has been
through the whole row before (`touchAll_touchAll`). On a list the first run may add elements, in
the order of the edits that miss them; after it no edit misses its element, and every element has
been through the whole row (`exists_touchAll`). So a second run changes nothing
(`applyAll_applyAll`).
-/

namespace Tickscript

/-- A change of the elements with some key. Without such an element, `blank` is changed instead and
added to the list. -/
structure Edit (κ α : Type) where
  key : κ
  change : α → α
  blank : α

namespace Edit

variable {κ α : Type} [DecidableEq κ] (keyOf : α → κ)

/-- What the edit makes of an element. -/
def touch (e : Edit κ α) (x : α) : α := if keyOf x = e.key then e.change x else x

/-- Whether some element has the key of the edit. -/
def finds (e : Edit κ α) (xs : List α) : Bool := xs.any fun x => keyOf x = e.key

/-- The list after the edit. -/
def apply (e : Edit κ α) (xs : List α) : List α :=
  if e.finds keyOf xs then xs.map (e.touch keyOf) else xs ++ [e.change e.blank]

/-- The list after edits, one after another. -/
def applyAll (es : List (Edit κ α)) (xs : List α) : List α :=
  es.foldl (fun xs e => e.apply keyOf xs) xs

/-- What edits make of an element, one after another. -/
def touchAll (es : List (Edit κ α)) (x : α) : α := es.foldl (fun x e => e.touch keyOf x) x

/-- The edit keeps keys, and doing it again at once changes nothing. -/
structure Lawful (e : Edit κ α) : Prop where
  key_blank : keyOf e.blank = e.key
  key_change : ∀ x, keyOf x = e.key → keyOf (e.change x) = e.key
  again : ∀ x, e.change (e.change x) = e.change x

/-- What `e` does not set does not depend, after another edit `d`, on anything that `e` sets. -/
def Overrides (e d : Edit κ α) : Prop :=
  ∀ x y, e.change x = e.change y → e.change (d.change x) = e.change (d.change y)

variable {keyOf} {e d : Edit κ α} {es : List (Edit κ α)} {xs : List α}

/-! ## Keys -/

theorem touch_of_eq {x : α} (h : keyOf x = e.key) : e.touch keyOf x = e.change x := if_pos h

theorem touch_of_ne {x : α} (h : keyOf x ≠ e.key) : e.touch keyOf x = x := if_neg h

theorem finds_eq_true : e.finds keyOf xs = true ↔ ∃ x ∈ xs, keyOf x = e.key := by
  simp [finds]

theorem isSome_find? : (xs.find? fun x => keyOf x = e.key).isSome = e.finds keyOf xs := by
  rw [Bool.eq_iff_iff, List.find?_isSome, finds_eq_true]
  simp

theorem apply_of_finds (h : e.finds keyOf xs = true) :
    e.apply keyOf xs = xs.map (e.touch keyOf) := if_pos h

theorem apply_of_not_finds (h : e.finds keyOf xs = false) :
    e.apply keyOf xs = xs ++ [e.change e.blank] := by
  simp [apply, h]

/-- No edit changes the key of an element. -/
theorem Lawful.key_touch (h : e.Lawful keyOf) (x : α) : keyOf (e.touch keyOf x) = keyOf x := by
  unfold touch
  split
  · next hx => rw [h.key_change x hx, hx]
  · rfl

/-- After an edit its key is there. -/
theorem Lawful.finds_apply_self (h : e.Lawful keyOf) (xs : List α) :
    e.finds keyOf (e.apply keyOf xs) = true := by
  rw [finds_eq_true]
  unfold apply
  split
  · next hfinds =>
    obtain ⟨x, hx, hkey⟩ := finds_eq_true.1 hfinds
    exact ⟨e.touch keyOf x, List.mem_map_of_mem hx, (h.key_touch x).trans hkey⟩
  · exact ⟨e.change e.blank, by simp, h.key_change _ h.key_blank⟩

/-- An edit takes away no key. -/
theorem Lawful.finds_apply (h : e.Lawful keyOf) (hd : d.finds keyOf xs = true) :
    d.finds keyOf (e.apply keyOf xs) = true := by
  obtain ⟨x, hx, hkey⟩ := finds_eq_true.1 hd
  rw [finds_eq_true]
  unfold apply
  split
  · exact ⟨e.touch keyOf x, List.mem_map_of_mem hx, (h.key_touch x).trans hkey⟩
  · exact ⟨x, by simp [hx], hkey⟩

/-- A row of edits takes away no key either. -/
theorem finds_applyAll (hes : ∀ e ∈ es, e.Lawful keyOf) (hd : d.finds keyOf xs = true) :
    d.finds keyOf (applyAll keyOf es xs) = true := by
  induction es generalizing xs with
  | nil => exact hd
  | cons e es ih => exact ih (fun e he => hes e (by simp [he])) ((hes e (by simp)).finds_apply hd)

/-- After a row of edits the key of each is there. -/
theorem finds_applyAll_of_mem (hes : ∀ e ∈ es, e.Lawful keyOf) (he : e ∈ es) (xs : List α) :
    e.finds keyOf (applyAll keyOf es xs) = true := by
  induction es generalizing xs with
  | nil => cases he
  | cons d es ih =>
    have hrest : ∀ e ∈ es, e.Lawful keyOf := fun e he => hes e (by simp [he])
    rcases List.mem_cons.1 he with rfl | he
    · have hself := (hes e (by simp)).finds_apply_self xs
      show e.finds keyOf (applyAll keyOf es (e.apply keyOf xs)) = true
      exact finds_applyAll hrest hself
    · exact ih hrest he _

/-! ## What an edit leaves alone -/

/-- An edit does not touch the elements with another key. -/
theorem Lawful.find?_apply (h : e.Lawful keyOf) {k : κ} (hk : k ≠ e.key) (xs : List α) :
    (e.apply keyOf xs).find? (fun x => keyOf x = k) = xs.find? fun x => keyOf x = k := by
  unfold apply
  split
  · clear * - h hk
    induction xs with
    | nil => rfl
    | cons x xs ih =>
      rw [List.map_cons, List.find?_cons, List.find?_cons, h.key_touch x, ih]
      split
      · next hx =>
        -- An element with the key `k` is not one that the edit changes.
        have hne : keyOf x ≠ e.key := fun hx' => hk ((of_decide_eq_true hx).symm.trans hx')
        rw [touch_of_ne hne]
      · rfl
  · have hnew : keyOf (e.change e.blank) ≠ k := fun hx => hk (hx.symm.trans
      (h.key_change _ h.key_blank))
    simp [List.find?_append, hnew]

/-- An edit changes the element with its key, or a blank one that is then found in its place. -/
theorem Lawful.find?_apply_self (h : e.Lawful keyOf) (xs : List α) :
    (e.apply keyOf xs).find? (fun x => keyOf x = e.key) =
      some (e.change ((xs.find? fun x => keyOf x = e.key).getD e.blank)) := by
  cases hfound : xs.find? fun x => keyOf x = e.key with
  | some x =>
    have hfinds : e.finds keyOf xs = true := by rw [← isSome_find?, hfound]; rfl
    rw [apply_of_finds hfinds, List.find?_map]
    -- Touching an element keeps its key, so the same element is found.
    have hkey : ((fun y => decide (keyOf y = e.key)) ∘ e.touch keyOf) =
        fun y => decide (keyOf y = e.key) := by
      funext y
      show decide (keyOf (e.touch keyOf y) = e.key) = _
      rw [h.key_touch y]
    have hx : keyOf x = e.key := by simpa using List.find?_some hfound
    rw [hkey, hfound, Option.map_some, touch_of_eq hx]
    rfl
  | none =>
    have hfinds : e.finds keyOf xs = false := by rw [← isSome_find?, hfound]; rfl
    have hnew : keyOf (e.change e.blank) = e.key := h.key_change _ h.key_blank
    rw [apply_of_not_finds hfinds, List.find?_append, hfound]
    simp [hnew]

/-- Edits about other keys leave what is found by a key as it is. -/
theorem find?_applyAll (hes : ∀ e ∈ es, e.Lawful keyOf) {k : κ} (hk : ∀ e ∈ es, k ≠ e.key)
    (xs : List α) :
    (applyAll keyOf es xs).find? (fun x => keyOf x = k) = xs.find? fun x => keyOf x = k := by
  induction es generalizing xs with
  | nil => rfl
  | cons e es ih =>
    have hrest := ih (fun e he => hes e (by simp [he])) (fun e he => hk e (by simp [he]))
      (e.apply keyOf xs)
    exact hrest.trans ((hes e (by simp)).find?_apply (hk e (by simp)) xs)

/-! ## Edits done twice -/

/-- If no edit misses its element, the whole row changes each element by itself. -/
theorem applyAll_of_finds (hes : ∀ e ∈ es, e.Lawful keyOf)
    (hfinds : ∀ e ∈ es, e.finds keyOf xs = true) :
    applyAll keyOf es xs = xs.map (touchAll keyOf es) := by
  induction es generalizing xs with
  | nil => exact (List.map_id' xs).symm
  | cons e es ih =>
    have hmap := apply_of_finds (hfinds e (by simp))
    have hrest := ih (fun d hd => hes d (by simp [hd])) fun d hd =>
      (hes e (by simp)).finds_apply (hfinds d (by simp [hd]))
    show applyAll keyOf es (e.apply keyOf xs) = _
    rw [hrest, hmap, List.map_map]
    rfl

/-- Edits about other keys leave an element as it is. -/
theorem touchAll_of_ne {x : α} (h : ∀ e ∈ es, keyOf x ≠ e.key) : touchAll keyOf es x = x := by
  induction es with
  | nil => rfl
  | cons e es ih =>
    show touchAll keyOf es (e.touch keyOf x) = x
    rw [touch_of_ne (h e (by simp))]
    exact ih fun d hd => h d (by simp [hd])

/-- Every element that is there after a row of edits has been through the whole row: one that was
added had a key that no earlier edit is about. -/
theorem exists_touchAll (hes : ∀ e ∈ es, e.Lawful keyOf) :
    ∀ y ∈ applyAll keyOf es xs, ∃ x, touchAll keyOf es x = y := by
  induction es using List.reverseRecOn with
  | nil => exact fun y _ => ⟨y, rfl⟩
  | append_singleton es e ih =>
    have hinit : ∀ d ∈ es, d.Lawful keyOf := fun d hd => hes d (by simp [hd])
    have hlast : e.Lawful keyOf := hes e (by simp)
    have hsnoc : ∀ x, touchAll keyOf (es ++ [e]) x = e.touch keyOf (touchAll keyOf es x) := by
      simp [touchAll]
    intro y hy
    have hy : y ∈ e.apply keyOf (applyAll keyOf es xs) := by simpa [applyAll] using hy
    unfold apply at hy
    split at hy
    · obtain ⟨z, hz, rfl⟩ := List.mem_map.1 hy
      obtain ⟨x, rfl⟩ := ih hinit z hz
      exact ⟨x, hsnoc x⟩
    · next hfinds =>
      rcases List.mem_append.1 hy with hold | hnew
      · -- Without an element to change, the edit leaves those that are there as they are.
        obtain ⟨x, rfl⟩ := ih hinit y hold
        have hne : keyOf (touchAll keyOf es x) ≠ e.key := fun hkey =>
          hfinds (finds_eq_true.2 ⟨_, hold, hkey⟩)
        exact ⟨x, by rw [hsnoc, touch_of_ne hne]⟩
      · obtain rfl := List.mem_singleton.1 hnew
        -- An earlier edit about this key would have left something for `e` to find.
        have hblank : touchAll keyOf es e.blank = e.blank := by
          refine touchAll_of_ne fun d hd hkey => hfinds ?_
          obtain ⟨x, hx, hxd⟩ := finds_eq_true.1 (finds_applyAll_of_mem hinit hd xs)
          exact finds_eq_true.2 ⟨x, hx, hxd.trans (hkey.symm.trans hlast.key_blank)⟩
        exact ⟨e.blank, by rw [hsnoc, hblank, touch_of_eq hlast.key_blank]⟩

/-- Elements of which an edit makes the same are no different to it after an edit that it
overrides. -/
theorem Overrides.touch (h : e.Overrides d) (he : e.Lawful keyOf) (hd : d.Lawful keyOf) {x y : α}
    (hxy : e.touch keyOf x = e.touch keyOf y) :
    e.touch keyOf (d.touch keyOf x) = e.touch keyOf (d.touch keyOf y) := by
  have hkey : keyOf x = keyOf y := by
    rw [← he.key_touch x, hxy, he.key_touch y]
  have hkeyx : keyOf (d.touch keyOf x) = keyOf x := hd.key_touch x
  have hkeyy : keyOf (d.touch keyOf y) = keyOf x := (hd.key_touch y).trans hkey.symm
  by_cases hx : keyOf x = e.key
  · have hchange : e.change x = e.change y := by
      rwa [touch_of_eq hx, touch_of_eq (hkey ▸ hx)] at hxy
    rw [touch_of_eq (hkeyx.trans hx), touch_of_eq (hkeyy.trans hx)]
    by_cases hxd : keyOf x = d.key
    · rw [touch_of_eq hxd, touch_of_eq (hkey ▸ hxd)]
      exact h x y hchange
    · rw [touch_of_ne hxd, touch_of_ne (hkey ▸ hxd)]
      exact hchange
  · have hsame : x = y := by
      rwa [touch_of_ne hx, touch_of_ne (hkey ▸ hx)] at hxy
    rw [hsame]

/-- Nothing is left of an edit after a row in which it occurs. -/
theorem touchAll_touch (hes : ∀ e ∈ es, e.Lawful keyOf)
    (hover : ∀ e ∈ es, ∀ d ∈ es, e.Overrides d) (he : e ∈ es) (x : α) :
    touchAll keyOf es (e.touch keyOf x) = touchAll keyOf es x := by
  have hself : e.touch keyOf (e.touch keyOf x) = e.touch keyOf x := by
    by_cases hx : keyOf x = e.key
    · rw [touch_of_eq hx, touch_of_eq ((hes e he).key_change x hx), (hes e he).again x]
    · rw [touch_of_ne hx, touch_of_ne hx]
  -- Up to where `e` occurs the two runs differ only in what `e` sets.
  have hbefore : ∀ ds : List (Edit κ α), (∀ d ∈ ds, d ∈ es) → ∀ x y,
      e.touch keyOf x = e.touch keyOf y →
      e.touch keyOf (touchAll keyOf ds x) = e.touch keyOf (touchAll keyOf ds y) := by
    intro ds hds
    induction ds with
    | nil => exact fun _ _ h => h
    | cons d ds ih =>
      intro x y hxy
      have hd := hds d (by simp)
      exact ih (fun d hd => hds d (by simp [hd])) _ _
        ((hover e he d hd).touch (hes e he) (hes d hd) hxy)
  obtain ⟨before, after, rfl⟩ := List.append_of_mem he
  have hmeet := hbefore before (fun d hd => by simp [hd]) _ _ hself
  simp only [touchAll, List.foldl_append, List.foldl_cons] at hmeet ⊢
  rw [hmeet]

/-- A row of edits does to an element what it does to one that has been through the row before. -/
theorem touchAll_touchAll (hes : ∀ e ∈ es, e.Lawful keyOf)
    (hover : ∀ e ∈ es, ∀ d ∈ es, e.Overrides d) (x : α) :
    touchAll keyOf es (touchAll keyOf es x) = touchAll keyOf es x := by
  have hpart : ∀ ds : List (Edit κ α), (∀ d ∈ ds, d ∈ es) → ∀ x,
      touchAll keyOf es (touchAll keyOf ds x) = touchAll keyOf es x := by
    intro ds hds
    induction ds with
    | nil => exact fun _ => rfl
    | cons d ds ih =>
      intro x
      have hrest := ih (fun d hd => hds d (by simp [hd])) (d.touch keyOf x)
      exact hrest.trans (touchAll_touch hes hover (hds d (by simp)) x)
  exact hpart es (fun _ hd => hd) x

/-- A second run of edits that override one another changes nothing. -/
theorem applyAll_applyAll (hes : ∀ e ∈ es, e.Lawful keyOf)
    (hover : ∀ e ∈ es, ∀ d ∈ es, e.Overrides d) (xs : List α) :
    applyAll keyOf es (applyAll keyOf es xs) = applyAll keyOf es xs := by
  rw [applyAll_of_finds hes fun e he => finds_applyAll_of_mem hes he xs]
  have hfixed : ∀ y ∈ applyAll keyOf es xs, touchAll keyOf es y = y := by
    intro y hy
    obtain ⟨x, rfl⟩ := exists_touchAll hes y hy
    exact touchAll_touchAll hes hover x
  calc (applyAll keyOf es xs).map (touchAll keyOf es)
      = (applyAll keyOf es xs).map id := List.map_congr_left hfixed
    _ = applyAll keyOf es xs := List.map_id _

end Edit

end Tickscript
