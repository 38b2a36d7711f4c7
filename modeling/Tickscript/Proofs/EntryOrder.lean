import Mathlib.Data.List.Forall2
import Mathlib.Data.List.Nodup
import Mathlib.Data.List.Perm.Basic
import Mathlib.Data.String.Basic
import Tickscript.Wire.Format

/-!
# The order of entries

An object has no order of its own: a text has the entries of a record as they were written, and a
value that went through a map has them by their keys. The two have one form in which all keys
increase (`Value.canonical`), so that values with one canonical form are one document
(`SameDocument`).

A reader is *stable* if it reads a value as it reads the canonical form. Scalars, optional values,
lists, maps and records of what is read by stable readers are read by stable ones again. That holds
for values in which no object has a key twice (`WellFormed`): of a repeated key a map keeps the last
entry and a record none.
-/

namespace Tickscript.Wire

/-! ## Sorted entries -/

section Entries

variable {α : Type}

/-- Entries in strictly increasing order of their keys, so with no key twice. -/
def Increasing (es : List (String × α)) : Prop := es.Pairwise fun a b => a.1 < b.1

instance (es : List (String × α)) : Decidable (Increasing es) :=
  inferInstanceAs (Decidable (es.Pairwise fun a b => a.1 < b.1))

/-- Entries with different keys may be put in one before the other or the other way round. -/
theorem insertEntry_comm {j k : String} (h : j ≠ k) (a b : α) (es : List (String × α)) :
    insertEntry j a (insertEntry k b es) = insertEntry k b (insertEntry j a es) := by
  induction es with
  | nil => grind [insertEntry]
  | cons e es ih => grind [insertEntry]

/-- Inserting a new key adds its entry and moves the others apart. -/
theorem insertEntry_perm {k : String} {es : List (String × α)} (h : k ∉ es.map Prod.fst) (a : α) :
    (insertEntry k a es).Perm ((k, a) :: es) := by
  fun_induction insertEntry k a es with
  | case1 => exact .refl _
  | case2 => exact .refl _
  | case3 => simp at h
  | case4 j b rest _ _ ih =>
    have hrest : k ∉ rest.map Prod.fst := fun hin => h (List.mem_cons_of_mem _ hin)
    exact ((ih hrest).cons _).trans (.swap _ _ _)

/-- The keys after an insertion are those before it and the new one. -/
theorem fst_mem_insertEntry {k : String} {a : α} {es : List (String × α)} {e : String × α}
    (h : e ∈ insertEntry k a es) : e.1 = k ∨ e ∈ es := by
  fun_induction insertEntry k a es with grind

/-- An insertion keeps entries in order. -/
theorem increasing_insertEntry {es : List (String × α)} (h : Increasing es) (k : String) (a : α) :
    Increasing (insertEntry k a es) := by
  unfold Increasing at h ⊢
  fun_induction insertEntry k a es with
  | case1 => exact List.pairwise_singleton _ _
  | case2 j b rest hlt =>
    obtain ⟨hhead, hrest⟩ := List.pairwise_cons.1 h
    refine List.pairwise_cons.2 ⟨fun e he => ?_, h⟩
    rcases List.mem_cons.1 he with rfl | he
    · exact hlt
    · exact hlt.trans (hhead e he)
  | case3 b rest hlt =>
    exact List.pairwise_cons.2 (List.pairwise_cons.1 h)
  | case4 j b rest hlt hne ih =>
    obtain ⟨hhead, hrest⟩ := List.pairwise_cons.1 h
    refine List.pairwise_cons.2 ⟨fun e he => ?_, ih hrest⟩
    rcases fst_mem_insertEntry he with heq | he
    · rw [heq]
      exact lt_of_le_of_ne (not_lt.1 hlt) (Ne.symm hne)
    · exact hhead e he

/-- Sorted entries are in order. -/
theorem increasing_sortEntries (es : List (String × α)) : Increasing (sortEntries es) := by
  unfold sortEntries
  have hrun : ∀ acc, Increasing acc →
      Increasing (es.foldl (fun acc e => insertEntry e.1 e.2 acc) acc) := by
    induction es with
    | nil => exact fun acc hacc => hacc
    | cons e es ih => exact fun acc hacc => ih _ (increasing_insertEntry hacc e.1 e.2)
  exact hrun [] List.Pairwise.nil

/-- Entries in order have no key twice. -/
theorem Increasing.nodup {es : List (String × α)} (h : Increasing es) : (es.map Prod.fst).Nodup :=
  (List.pairwise_map.2 h).imp ne_of_lt

/-- Sorting neither loses nor adds an entry if no key is there twice. -/
theorem sortEntries_perm {es : List (String × α)} (h : (es.map Prod.fst).Nodup) :
    (sortEntries es).Perm es := by
  unfold sortEntries
  -- what is sorted so far and what is left have no key in common
  have hrun : ∀ acc : List (String × α), (acc.map Prod.fst ++ es.map Prod.fst).Nodup →
      (es.foldl (fun acc e => insertEntry e.1 e.2 acc) acc).Perm (acc ++ es) := by
    clear h
    induction es with
    | nil =>
      intro acc _
      simp
    | cons e es ih =>
      intro acc hacc
      have hnew : e.1 ∉ acc.map Prod.fst := by
        intro hin
        exact (List.nodup_append.1 hacc).2.2 e.1 hin e.1 (by simp) rfl
      have hins := insertEntry_perm hnew e.2
      have hstep : (insertEntry e.1 e.2 acc ++ es).Perm (acc ++ e :: es) :=
        (hins.append_right es).trans List.perm_middle.symm
      rw [List.foldl_cons]
      refine (ih _ ?_).trans hstep
      rw [← List.map_append, (hstep.map Prod.fst).nodup_iff, List.map_append]
      exact hacc
  simpa using hrun [] (by simpa using h)

/-- Entries are sorted the same however they stood before. -/
theorem sortEntries_congr {es fs : List (String × α)} (h : es.Perm fs)
    (hkeys : (es.map Prod.fst).Nodup) : sortEntries es = sortEntries fs := by
  refine h.foldl_eq' (fun x hx y hy acc => ?_) []
  by_cases hkey : x.1 = y.1
  · have hxy : x = y := List.inj_on_of_nodup_map hkeys hx hy hkey
    rw [hxy]
  · exact (insertEntry_comm hkey x.2 y.2 acc).symm

/-- Entries that are in order are sorted already. -/
theorem Increasing.sortEntries_eq {es : List (String × α)} (h : Increasing es) :
    sortEntries es = es :=
  (sortEntries_perm h.nodup).eq_of_pairwise
    (fun _ _ _ _ hab hba => absurd hba (lt_asymm hab)) (increasing_sortEntries es) h

end Entries

/-! ## Canonical forms -/

namespace Value

/-- A value with finite floats in which the keys of every object, however deep, satisfy a
condition. -/
inductive Keyed (P : List String → Prop) : Value → Prop where
  | null : Keyed P .null
  | bool (b : Bool) : Keyed P (.bool b)
  | int (n : Int) : Keyed P (.int n)
  | float {x : Binary64} (hfinite : x.isFinite = true) : Keyed P (.float x)
  | string (s : String) : Keyed P (.string s)
  | array {items : List Value} (hitems : ∀ v ∈ items, Keyed P v) : Keyed P (.array items)
  | object {es : List (String × Value)} (hkeys : P (es.map Prod.fst))
      (hentries : ∀ e ∈ es, Keyed P e.2) : Keyed P (.object es)

section Keyed

variable {P : List String → Prop}

@[simp] theorem keyed_null : Keyed P .null := .null

@[simp] theorem keyed_bool (b : Bool) : Keyed P (.bool b) := .bool b

@[simp] theorem keyed_int (n : Int) : Keyed P (.int n) := .int n

@[simp] theorem keyed_string (s : String) : Keyed P (.string s) := .string s

@[simp] theorem keyed_float_iff {x : Binary64} : Keyed P (.float x) ↔ x.isFinite = true :=
  ⟨fun | .float hfinite => hfinite, .float⟩

@[simp] theorem keyed_array_iff {items : List Value} :
    Keyed P (.array items) ↔ ∀ v ∈ items, Keyed P v :=
  ⟨fun | .array hitems => hitems, .array⟩

@[simp] theorem keyed_object_iff {es : List (String × Value)} :
    Keyed P (.object es) ↔ P (es.map Prod.fst) ∧ ∀ e ∈ es, Keyed P e.2 :=
  ⟨fun | .object hkeys hentries => ⟨hkeys, hentries⟩, fun h => .object h.1 h.2⟩

end Keyed

/-- No object of the value has a key twice. -/
def WellFormed (v : Value) : Prop := v.Keyed List.Nodup

/-- The keys of every object of the value increase. These are the free-form values, which keep the
entries of an object in a map. -/
def Proper (v : Value) : Prop := v.Keyed (List.Pairwise (· < ·))

/-- The two values differ at most in the order in which their objects have their entries. -/
def SameDocument (v w : Value) : Prop := v.WellFormed ∧ w.WellFormed ∧ v.canonical = w.canonical

/-- A condition on the keys of objects may be replaced by a weaker one. -/
theorem Keyed.imp {P Q : List String → Prop} (hPQ : ∀ keys, P keys → Q keys) {v : Value}
    (h : v.Keyed P) : v.Keyed Q := by
  induction h with
  | null => exact .null
  | bool b => exact .bool b
  | int n => exact .int n
  | float hfinite => exact .float hfinite
  | string s => exact .string s
  | array _ ih => exact .array ih
  | object hkeys _ ih => exact .object (hPQ _ hkeys) ih

/-- Keys that increase differ. -/
theorem Proper.wellFormed {v : Value} (h : v.Proper) : v.WellFormed :=
  Keyed.imp (fun _ hkeys => hkeys.imp ne_of_lt) h

theorem canonical_float {x : Binary64} (hfinite : x.isFinite = true) :
    (Value.float x).canonical = .float x := if_pos hfinite

/-- The elements of a list are made canonical one by one. -/
theorem canonicalItems_eq (items : List Value) : canonicalItems items = items.map canonical := by
  induction items with
  | nil => rfl
  | cons v vs ih => rw [canonicalItems, ih, List.map_cons]

/-- The values of entries are made canonical, and their keys and order stay. -/
theorem canonicalEntries_eq (es : List (String × Value)) :
    canonicalEntries es = es.map (Prod.map id canonical) := by
  induction es with
  | nil => rfl
  | cons e es ih => rw [canonicalEntries, ih, List.map_cons, Prod.map, id]

theorem canonical_array (items : List Value) :
    (Value.array items).canonical = .array (items.map canonical) :=
  congrArg Value.array (canonicalItems_eq items)

/-- A canonical object has its entries in order, and canonical values in them. -/
theorem canonical_object (es : List (String × Value)) :
    (Value.object es).canonical = .object (sortEntries (es.map (Prod.map id canonical))) :=
  congrArg (Value.object ∘ sortEntries) (canonicalEntries_eq es)

theorem keys_map_canonical (es : List (String × Value)) :
    (es.map (Prod.map id canonical)).map Prod.fst = es.map Prod.fst := by
  rw [List.map_map]
  rfl

/-- The canonical form of a well-formed value is one that a map can hold. -/
theorem WellFormed.proper_canonical {v : Value} (h : v.WellFormed) : v.canonical.Proper := by
  induction h with
  | null => exact .null
  | bool b => exact .bool b
  | int n => exact .int n
  | float hfinite =>
    rw [canonical_float hfinite]
    exact .float hfinite
  | string s => exact .string s
  | array _ ih =>
    rw [canonical_array]
    exact .array (List.forall_mem_map.2 ih)
  | @object es hkeys _ ih =>
    rw [canonical_object]
    refine .object (List.pairwise_map.2 (increasing_sortEntries _)) fun e he => ?_
    rw [← keys_map_canonical] at hkeys
    obtain ⟨d, hd, rfl⟩ := List.mem_map.1 ((sortEntries_perm hkeys).mem_iff.1 he)
    exact ih d hd

/-- A value with its entries in order is its own canonical form. -/
theorem Proper.canonical_eq {v : Value} (h : v.Proper) : v.canonical = v := by
  induction h with
  | null => rfl
  | bool b => rfl
  | int n => rfl
  | float hfinite => rw [canonical_float hfinite]
  | string s => rfl
  | array _ ih =>
    rw [canonical_array, List.map_congr_left ih, List.map_id']
  | @object es hkeys _ ih =>
    have hsame : es.map (Prod.map id canonical) = es.map id :=
      List.map_congr_left fun e he => Prod.ext rfl (ih e he)
    have hincreasing : Increasing es := List.pairwise_map.1 hkeys
    rw [canonical_object, hsame, List.map_id, hincreasing.sortEntries_eq]

/-! ## Stable readers -/

/-- A reader that does not see in which order objects have their entries. -/
def Stable {α : Type} (read : Value → Option α) : Prop :=
  ∀ v : Value, v.WellFormed → read v.canonical = read v

/-- A stable reader reads the same from two values that are the same document. -/
theorem Stable.congr {α : Type} {read : Value → Option α} (h : Stable read) {v w : Value}
    (hvw : v.SameDocument w) : read v = read w := by
  obtain ⟨hv, hw, hsame⟩ := hvw
  rw [← h v hv, ← h w hw, hsame]

theorem stable_text? : Stable format.text? := by
  intro v hv
  cases hv with
  | float hfinite => rw [canonical_float hfinite]
  | _ => rfl

theorem stable_bool? : Stable format.bool? := by
  intro v hv
  cases hv with
  | float hfinite => rw [canonical_float hfinite]
  | _ => rfl

theorem isNull_canonical {v : Value} (h : v.WellFormed) : v.canonical.isNull = v.isNull := by
  cases h with
  | float hfinite => rw [canonical_float hfinite]
  | _ => rfl

/-- A free-form value is read in its canonical form, whatever order its objects have. -/
theorem stable_value? : Stable format.value? := by
  intro v hv
  exact congrArg some hv.proper_canonical.canonical_eq

/-- The entries of a canonical object are those of the object, each with its canonical value. -/
theorem sortEntries_canonicalEntries_perm {es : List (String × Value)}
    (hkeys : (es.map Prod.fst).Nodup) :
    (sortEntries (canonicalEntries es)).Perm (es.map (Prod.map id canonical)) := by
  rw [canonicalEntries_eq]
  exact sortEntries_perm (by rwa [keys_map_canonical])

theorem constant?_cons_cons (a b : String × Value) (es : List (String × Value)) :
    constant? (.object (a :: b :: es)) = none := by
  obtain ⟨k, v⟩ := a
  cases v <;> rfl

/-- A constant has one entry at most, so its order cannot matter. -/
theorem stable_constant? : Stable format.constant? := by
  intro v hv
  cases hv with
  | float hfinite => rw [canonical_float hfinite]
  | @object es hkeys hentries =>
    match es with
    | [] => rfl
    | [(k, v)] =>
      -- one entry: its value is null before and after
      have hv : v.Keyed List.Nodup := hentries (k, v) (by simp)
      show constant? (.object [(k, v.canonical)]) = constant? (.object [(k, v)])
      cases hv with
      | float hfinite => rw [canonical_float hfinite]
      | _ => rfl
    | d :: e :: es =>
      obtain ⟨a, b, rest, hsorted⟩ : ∃ a b rest,
          sortEntries (canonicalEntries (d :: e :: es)) = a :: b :: rest := by
        have hlength := (sortEntries_canonicalEntries_perm hkeys).length_eq
        match h : sortEntries (canonicalEntries (d :: e :: es)) with
        | [] => simp [h] at hlength
        | [a] => simp [h] at hlength
        | a :: b :: rest => exact ⟨a, b, rest, rfl⟩
      rw [canonical, hsorted]
      exact (constant?_cons_cons a b rest).trans (constant?_cons_cons d e es).symm
  | _ => rfl

/-- Reading something that may be left out is stable if reading it is. -/
theorem Stable.optional? {α : Type} {read : Value → Option α} (h : Stable read) :
    Stable (format.optional? read) := by
  intro v hv
  show (if v.canonical.isNull then some none else (read v.canonical).map some) =
    if v.isNull then some none else (read v).map some
  rw [isNull_canonical hv, h v hv]

/-- Reading a list is stable if reading an element is. -/
theorem Stable.list? {α : Type} {read : Value → Option α} (h : Stable read) :
    Stable (format.list? read) := by
  intro v hv
  cases hv with
  | float hfinite => rw [canonical_float hfinite]
  | @array items hitems =>
    show (canonicalItems items).mapM read = items.mapM read
    rw [canonicalItems_eq]
    induction items with
    | nil => rfl
    | cons v vs ih =>
      rw [List.forall_mem_cons] at hitems
      rw [List.map_cons, List.mapM_cons, List.mapM_cons, h v hitems.1, ih hitems.2]
  | _ => rfl

section Maps

variable {α : Type} {read : Value → Option α}

/-- Entries are read one by one, each under its key. -/
theorem readEntries_eq_some_iff {es : List (String × Value)} {vs : List (String × α)} :
    Format.readEntries read es = some vs ↔
      List.Forall₂ (fun e v => e.1 = v.1 ∧ read e.2 = some v.2) es vs := by
  induction es generalizing vs with
  | nil => simp [Format.readEntries, eq_comm]
  | cons e es ih =>
    rw [List.forall₂_cons_left_iff, Format.readEntries]
    constructor
    · intro h
      obtain ⟨v, hv, h⟩ := Option.bind_eq_some_iff.1 h
      obtain ⟨rest, hrest, h⟩ := Option.bind_eq_some_iff.1 h
      cases h
      exact ⟨(e.1, v), rest, ⟨rfl, hv⟩, ih.1 hrest, rfl⟩
    · rintro ⟨⟨k, v⟩, rest, ⟨rfl, hv⟩, hrest, rfl⟩
      rw [hv, ih.2 hrest]
      rfl

/-- Reading entries keeps their keys and their order. -/
theorem readEntries_keys {es : List (String × Value)} {vs : List (String × α)}
    (h : Format.readEntries read es = some vs) : vs.map Prod.fst = es.map Prod.fst := by
  replace h := readEntries_eq_some_iff.1 h
  induction h with
  | nil => rfl
  | cons hhead _ ih => rw [List.map_cons, List.map_cons, hhead.1, ih]

/-- Entries in another order are read as the same values in another order. -/
theorem readEntries_perm {es fs : List (String × Value)} {vs : List (String × α)}
    (h : es.Perm fs) (hvs : Format.readEntries read es = some vs) :
    ∃ ws, Format.readEntries read fs = some ws ∧ vs.Perm ws := by
  obtain ⟨ws, hws, hperm⟩ := List.perm_comp_forall₂ h.symm (readEntries_eq_some_iff.1 hvs)
  exact ⟨ws, readEntries_eq_some_iff.2 hws, hperm.symm⟩

/-- A map is read the same in whichever order its entries stand. -/
theorem sorted_readEntries_congr {es fs : List (String × Value)} (h : es.Perm fs)
    (hkeys : (es.map Prod.fst).Nodup) :
    (Format.readEntries read es).map sortEntries =
      (Format.readEntries read fs).map sortEntries := by
  cases hes : Format.readEntries read es with
  | none =>
    cases hfs : Format.readEntries read fs with
    | none => rfl
    | some ws =>
      obtain ⟨vs, hvs, -⟩ := readEntries_perm h.symm hfs
      rw [hes] at hvs
      cases hvs
  | some vs =>
    obtain ⟨ws, hws, hperm⟩ := readEntries_perm h hes
    rw [hws, Option.map_some, Option.map_some, sortEntries_congr hperm]
    rwa [readEntries_keys hes]

/-- Entries with canonical values are read as those with the values themselves. -/
theorem Stable.readEntries (h : Stable read) {es : List (String × Value)}
    (hes : ∀ e ∈ es, e.2.WellFormed) :
    Format.readEntries read (es.map (Prod.map id canonical)) = Format.readEntries read es := by
  induction es with
  | nil => rfl
  | cons e es ih =>
    rw [List.forall_mem_cons] at hes
    rw [List.map_cons, Prod.map, id, Format.readEntries, Format.readEntries, h e.2 hes.1,
      ih hes.2]

/-- Reading a map is stable if reading an element is. -/
theorem Stable.map? (h : Stable read) : Stable (format.map? read) := by
  intro v hv
  cases hv with
  | float hfinite => rw [canonical_float hfinite]
  | @object es hkeys hentries =>
    have hperm := sortEntries_canonicalEntries_perm hkeys
    rw [← keys_map_canonical, ← (hperm.map Prod.fst).nodup_iff] at hkeys
    show (Format.readEntries read (sortEntries (canonicalEntries es))).map sortEntries =
      (Format.readEntries read es).map sortEntries
    rw [sorted_readEntries_congr hperm hkeys, h.readEntries hentries]
  | _ => rfl

end Maps

/-! ## Records -/

section Records

variable {α : Type} {read : Value → Option α} {names : List String} {name : String}
  {es fs : List (String × Value)}

/-- The named fields are the same in both lists of entries, in the second as canonical values. -/
def SameFields (names : List String) (es fs : List (String × Value)) : Prop :=
  ∀ name ∈ names, lookup? name fs = (lookup? name es).map canonical ∧
    ∀ v ∈ lookup? name es, v.WellFormed

/-- A field that is required is found in both lists of entries, or in neither. -/
theorem SameFields.required (h : SameFields names es fs) (hread : Stable read)
    (hname : name ∈ names) :
    Format.required read name fs = Format.required read name es := by
  obtain ⟨hsame, hwf⟩ := h name hname
  unfold Format.required
  rw [hsame]
  cases hes : lookup? name es with
  | none => rfl
  | some v => exact hread v (hwf v hes)

/-- A field with a default is read alike from both lists of entries. -/
theorem SameFields.withDefault {default : α} (h : SameFields names es fs) (hread : Stable read)
    (hname : name ∈ names) :
    Format.withDefault default read name fs = Format.withDefault default read name es := by
  obtain ⟨hsame, hwf⟩ := h name hname
  unfold Format.withDefault
  rw [hsame]
  cases hes : lookup? name es with
  | none => rfl
  | some v => exact hread v (hwf v hes)

/-- A lookup finds the first entry with the key. -/
theorem lookup?_eq_head? (name : String) (es : List (String × Value)) :
    lookup? name es = (es.filter fun e => e.1 == name).head?.map Prod.snd := by
  rw [List.head?_filter]
  rfl

theorem filter_map_canonical (name : String) (es : List (String × Value)) :
    (es.map (Prod.map id canonical)).filter (fun e => e.1 == name) =
      (es.filter fun e => e.1 == name).map (Prod.map id canonical) := by
  rw [List.filter_map]
  rfl

/-- A field that is not repeated is found in every order of the entries. -/
theorem lookup?_of_perm (h : fs.Perm (es.map (Prod.map id canonical)))
    (honce : (es.filter fun e => e.1 == name).length ≤ 1) :
    lookup? name fs = (lookup? name es).map canonical := by
  have hfilter := h.filter fun e => e.1 == name
  rw [filter_map_canonical] at hfilter
  rw [lookup?_eq_head?, lookup?_eq_head?]
  generalize es.filter (fun e => e.1 == name) = found at hfilter honce
  match found with
  | [] =>
    rw [hfilter.eq_nil]
    rfl
  | [e] =>
    rw [List.perm_singleton.1 hfilter]
    rfl
  | d :: e :: rest => simp at honce

theorem zipFields_map_canonical (names : List String) (items : List Value) :
    zipFields names (items.map canonical) =
      (zipFields names items).map (·.map (Prod.map id canonical)) := by
  fun_induction zipFields names items with
  | case1 => simp [zipFields]
  | case2 => rfl
  | case3 f fs v vs ih =>
    rw [List.map_cons, zipFields, ih, Option.map_map, Option.map_map]
    rfl

theorem snd_mem_of_zipFields {items : List Value} (h : zipFields names items = some es)
    {e : String × Value} (he : e ∈ es) : e.2 ∈ items := by
  fun_induction zipFields names items generalizing es with
  | case1 => simp_all
  | case2 => cases h
  | case3 f fs v vs ih =>
    obtain ⟨rest, hrest, rfl⟩ := Option.map_eq_some_iff.1 h
    rcases List.mem_cons.1 he with rfl | he
    · exact List.mem_cons_self
    · exact List.mem_cons_of_mem _ (ih hrest he)

/-- The entries of a canonical record, if it is one, are those of the record. -/
theorem record?_canonical (names : List String) {v : Value} (hv : v.WellFormed) :
    (record? names v = none ∧ record? names v.canonical = none) ∨
    ∃ es fs, record? names v = some es ∧ record? names v.canonical = some fs ∧
      fs.Perm (es.map (Prod.map id canonical)) ∧ ∀ e ∈ es, e.2.WellFormed := by
  cases hv with
  | float hfinite =>
    rw [canonical_float hfinite]
    exact .inl ⟨rfl, rfl⟩
  | @array items hitems =>
    have hzip := zipFields_map_canonical names items
    cases hes : zipFields names items with
    | none => exact .inl ⟨hes, by rw [canonical_array, record?, hzip, hes]; rfl⟩
    | some es =>
      refine .inr ⟨es, es.map (Prod.map id canonical), hes, ?_, .refl _, fun e he => ?_⟩
      · rw [canonical_array, record?, hzip, hes]
        rfl
      · exact hitems _ (snd_mem_of_zipFields hes he)
  | @object es hkeys hentries =>
    exact .inr ⟨es, _, rfl, rfl, sortEntries_canonicalEntries_perm hkeys, hentries⟩
  | _ => exact .inl ⟨rfl, rfl⟩

/-- The check for repeated fields comes out the same for the canonical form of a record, and where
it passes the fields are the same. -/
theorem fields?_canonical (names : List String) {v : Value} (hv : v.WellFormed) :
    (format.fields? names v = none ∧ format.fields? names v.canonical = none) ∨
    ∃ es fs, format.fields? names v = some es ∧ format.fields? names v.canonical = some fs ∧
      SameFields names es fs := by
  have hformat : format.record? = record? := rfl
  unfold Format.fields?
  rw [hformat]
  rcases record?_canonical names hv with ⟨hnone, hnone'⟩ | ⟨es, fs, hes, hfs, hperm, hwf⟩
  · rw [hnone, hnone']
    exact .inl ⟨rfl, rfl⟩
  · have hlength (name : String) : (fs.filter fun e => e.1 == name).length =
        (es.filter fun e => e.1 == name).length := by
      rw [(hperm.filter _).length_eq, filter_map_canonical, List.length_map]
    simp only [hes, hfs, hlength]
    split
    next honce =>
      refine .inr ⟨es, fs, rfl, rfl, fun name hname => ⟨?_, fun v hfound => ?_⟩⟩
      · have honce := List.all_eq_true.1 honce name hname
        exact lookup?_of_perm hperm (of_decide_eq_true honce)
      · obtain ⟨e, he, rfl⟩ := Option.map_eq_some_iff.1 hfound
        exact hwf e (List.mem_of_find?_eq_some he)
    next => exact .inl ⟨rfl, rfl⟩

/-- A record is read alike from the same document if it is built from its named fields alone. -/
theorem stable_record {build : List (String × Value) → Option α}
    (h : ∀ es fs, SameFields names es fs → build fs = build es) :
    Stable fun v => (format.fields? names v).bind build := by
  intro v hv
  rcases fields?_canonical names hv with ⟨hnone, hnone'⟩ | ⟨es, fs, hes, hfs, hsame⟩
  · simp only [hnone, hnone']
  · simp only [hes, hfs, Option.bind_some, h es fs hsame]

end Records

end Value

end Tickscript.Wire
