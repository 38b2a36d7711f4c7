import Tickscript.Proofs.EntryOrder
import Tickscript.Resource.Codec

/-!
# Resources there and back

What a resource is written as and what it may be read from are said apart: an encoder has the names
of the fields and leaves some of them out, a decoder has names and defaults of its own. Here the two
fit. A field that is not written (an empty description or match expression) has the written default
on the other side, a missing optional part is a null that is read as missing again, and free-form
values come back with whatever is nested in them.

Maps and the objects of free-form values are kept by increasing keys, which is what `ProperVars` and
`ProperOptions` say. Nothing of that kind is asked of the value that is decoded, which may have the
entries of its records, of its maps and of everything in them in any order (`Restores`).
-/

namespace Tickscript

open Wire (Value Format Increasing lookup?)
open Wire.Value (Stable SameFields)

/-! ## Decoders see no order -/

/-- Constants are named by texts, in which there is nothing to reorder. -/
theorem stable_decodeConstant {α : Type} (ofName? : String → Option α) :
    Stable (decodeConstant ofName? Value.format) := by
  intro v hv
  exact congrArg (·.bind ofName?) (Value.stable_constant? v hv)

theorem VarType.stable_decode : Stable (VarType.decode Value.format) := stable_decodeConstant _

theorem TaskType.stable_decode : Stable (TaskType.decode Value.format) := stable_decodeConstant _

theorem Status.stable_decode : Stable (Status.decode Value.format) := stable_decodeConstant _

theorem Dbrp.stable_decode : Stable (Dbrp.decode Value.format) := by
  refine Value.stable_record fun es fs h => ?_
  rw [h.required Value.stable_text?, h.required Value.stable_text?]
  all_goals decide

/-- A variable is read by its fields. -/
theorem Var.stable_decode : Stable (Var.decode Value.format) := by
  refine Value.stable_record fun es fs h => ?_
  rw [h.required VarType.stable_decode, h.required Value.stable_value?,
    h.withDefault Value.stable_text?]
  all_goals decide

theorem TaskVars.stable_decode : Stable (TaskVars.decode Value.format) := by
  refine Value.stable_record fun es fs h => ?_
  rw [h.required Value.stable_text?, h.withDefault Dbrp.stable_decode.list?,
    h.withDefault Var.stable_decode.map?]
  all_goals decide

/-- A task is read by its fields. -/
theorem Task.stable_decode : Stable (Task.decode Value.format) := by
  refine Value.stable_record fun es fs h => ?_
  have htext := Value.stable_text?.optional?
  rw [h.required Value.stable_text?, h.withDefault htext,
    h.withDefault TaskType.stable_decode.optional?, h.withDefault Dbrp.stable_decode.list?,
    h.withDefault htext, h.required Status.stable_decode, h.withDefault Var.stable_decode.map?]
  all_goals decide

theorem Template.stable_decode : Stable (Template.decode Value.format) := by
  refine Value.stable_record fun es fs h => ?_
  rw [h.required Value.stable_text?, h.required TaskType.stable_decode,
    h.required Value.stable_text?]
  all_goals decide

/-- A handler is read by its fields. -/
theorem Handler.stable_decode : Stable (Handler.decode Value.format) := by
  refine Value.stable_record fun es fs h => ?_
  rw [h.required Value.stable_text?, h.required Value.stable_text?,
    h.required Value.stable_text?, h.withDefault Value.stable_text?,
    h.withDefault Value.stable_value?.map?]
  all_goals decide

theorem LoadConfig.stable_decode : Stable (LoadConfig.decode Value.format) := by
  refine Value.stable_record fun es fs h => ?_
  rw [h.withDefault Value.stable_bool?, h.withDefault Value.stable_text?]
  all_goals decide

/-! ## Parts of a record -/

section Parts

variable {α : Type} {encode : α → Value} {decode : Value → Option α}

/-- A text that may be missing comes back. -/
theorem optional?_encodeText? (s : Option String) :
    Value.format.optional? Value.format.text? (encodeText? s) = some s := by
  cases s <;> rfl

/-- A type that may be missing comes back. -/
theorem optional?_encodeType? (t : Option TaskType) :
    Value.format.optional? (TaskType.decode Value.format) (encodeText? (t.map TaskType.name)) =
      some t := by
  cases t with
  | none => rfl
  | some type => cases type <;> rfl

/-- A list comes back if its elements do. -/
theorem list?_map {as : List α} (h : ∀ a ∈ as, decode (encode a) = some a) :
    Value.format.list? decode (.array (as.map encode)) = some as := by
  show (as.map encode).mapM decode = some as
  induction as with
  | nil => rfl
  | cons a as ih =>
    rw [List.forall_mem_cons] at h
    rw [List.map_cons, List.mapM_cons, h.1, ih h.2]
    rfl

/-- A map comes back if its keys increase and its values do. -/
theorem map?_encodeEntries {es : List (String × α)} (hes : Increasing es)
    (h : ∀ e ∈ es, decode (encode e.2) = some e.2) :
    Value.format.map? decode (encodeEntries encode es) = some es := by
  have hread : Format.readEntries decode (es.map fun e => (e.1, encode e.2)) = some es := by
    rw [Value.readEntries_eq_some_iff, List.forall₂_map_left_iff, List.forall₂_same]
    exact fun e he => ⟨rfl, h e he⟩
  show (Format.readEntries decode (es.map fun e => (e.1, encode e.2))).map Wire.sortEntries =
    some es
  rw [hread, Option.map_some, hes.sortEntries_eq]

end Parts

/-! ## Decoding an encoded value -/

theorem Dbrp.decode_encode (d : Dbrp) : Dbrp.decode Value.format d.encode = some d := rfl

/-- A proper variable comes back with its type and its value. -/
theorem Var.decode_encode {v : Var} (h : v.value.Proper) :
    Var.decode Value.format v.encode = some v := by
  obtain ⟨type, value, description⟩ := v
  have hvalue : value.canonical = value := h.canonical_eq
  unfold Var.encode textUnlessEmpty
  -- the description is the default of its reader or an entry of its own
  by_cases hd : description = ""
  · subst hd
    show ((VarType.ofName? type.name).bind fun type => some (Var.mk type value.canonical "")) =
      some ⟨type, value, ""⟩
    rw [VarType.ofName?_name, hvalue]
    rfl
  · rw [if_neg hd]
    show ((VarType.ofName? type.name).bind fun type =>
      some (Var.mk type value.canonical description)) = some ⟨type, value, description⟩
    rw [VarType.ofName?_name, hvalue]
    rfl

/-- Variables as they are kept: in a map, and with free-form values. -/
def ProperVars (vars : List (String × Var)) : Prop :=
  Increasing vars ∧ ∀ e ∈ vars, e.2.value.Proper

theorem ProperVars.decode_encode {vars : List (String × Var)} (h : ProperVars vars) :
    Value.format.map? (Var.decode Value.format) (encodeEntries Var.encode vars) = some vars :=
  map?_encodeEntries h.1 fun e he => Var.decode_encode (h.2 e he)

theorem Dbrp.list?_encode (ds : List Dbrp) :
    Value.format.list? (Dbrp.decode Value.format) (.array (ds.map Dbrp.encode)) = some ds :=
  list?_map fun d _ => Dbrp.decode_encode d

/-- The variables of a task come back. -/
theorem TaskVars.decode_encode {v : TaskVars} (h : ProperVars v.vars) :
    TaskVars.decode Value.format v.encode = some v := by
  show ((Value.format.list? (Dbrp.decode Value.format) (.array (v.dbrps.map Dbrp.encode))).bind
    fun dbrps =>
      (Value.format.map? (Var.decode Value.format) (encodeEntries Var.encode v.vars)).bind
        fun vars => some { v with dbrps, vars }) = some v
  rw [Dbrp.list?_encode, h.decode_encode]
  rfl

/-- A task comes back with every field. -/
theorem Task.decode_encode {t : Task} (h : ProperVars t.vars) :
    Task.decode Value.format t.encode = some t := by
  show ((Value.format.optional? Value.format.text? (encodeText? t.templateId)).bind
    fun templateId =>
    (Value.format.optional? (TaskType.decode Value.format)
      (encodeText? (t.type.map TaskType.name))).bind fun type =>
    (Value.format.list? (Dbrp.decode Value.format) (.array (t.dbrps.map Dbrp.encode))).bind
      fun dbrps =>
    (Value.format.optional? Value.format.text? (encodeText? t.script)).bind fun script =>
    (Status.ofName? t.status.name).bind fun status =>
    (Value.format.map? (Var.decode Value.format) (encodeEntries Var.encode t.vars)).bind
      fun vars => some { t with templateId, type, dbrps, script, status, vars }) = some t
  rw [optional?_encodeText?, optional?_encodeType?, Dbrp.list?_encode, optional?_encodeText?,
    Status.ofName?_name, h.decode_encode]
  rfl

theorem Template.decode_encode (t : Template) : Template.decode Value.format t.encode = some t := by
  show ((TaskType.ofName? t.type.name).bind fun type => some { t with type }) = some t
  rw [TaskType.ofName?_name]
  rfl

/-- The options of a handler as they are kept, one free-form value with its entries in a map. -/
def ProperOptions (options : List (String × Value)) : Prop := (Value.object options).Proper

theorem ProperOptions.decode_encode {options : List (String × Value)} (h : ProperOptions options) :
    Value.format.map? Value.format.value? (.object options) = some options := by
  obtain ⟨hkeys, hentries⟩ := Value.keyed_object_iff.1 h
  have hvalue (e : String × Value) (he : e ∈ options) : Value.format.value? e.2 = some e.2 :=
    congrArg some (Value.Proper.canonical_eq (hentries e he))
  have hmap : Value.format.map? Value.format.value? (encodeEntries (fun v => v) options) =
      some options := map?_encodeEntries (List.pairwise_map.1 hkeys) hvalue
  rwa [encodeEntries, List.map_id'] at hmap

/-- A handler comes back with every field. -/
theorem Handler.decode_encode {h : Handler} (hoptions : ProperOptions h.options) :
    Handler.decode Value.format h.encode = some h := by
  obtain ⟨topic, id, kind, matching, options⟩ := h
  replace hoptions := hoptions.decode_encode
  unfold Handler.encode textUnlessEmpty
  by_cases hm : matching = ""
  · subst hm
    show ((Value.format.map? Value.format.value? (.object options)).bind fun options =>
      some (Handler.mk topic id kind "" options)) = some ⟨topic, id, kind, "", options⟩
    rw [hoptions]
    rfl
  · rw [if_neg hm]
    show ((Value.format.map? Value.format.value? (.object options)).bind fun options =>
      some (Handler.mk topic id kind matching options)) = some ⟨topic, id, kind, matching, options⟩
    rw [hoptions]
    rfl

theorem LoadConfig.decode_encode (c : LoadConfig) :
    LoadConfig.decode Value.format c.encode = some c := rfl

/-! ## No key twice -/

/-- A text that may be missing is a well-formed value. -/
theorem wellFormed_encodeText? (s : Option String) : (encodeText? s).WellFormed := by
  cases s with
  | none => exact .null
  | some s => exact .string s

theorem Dbrp.wellFormed_encode (d : Dbrp) : d.encode.WellFormed := by
  simp [Value.WellFormed, Dbrp.encode]

theorem Dbrp.wellFormed_encodeAll (ds : List Dbrp) :
    (Value.array (ds.map Dbrp.encode)).WellFormed :=
  .array (List.forall_mem_map.2 fun d _ => d.wellFormed_encode)

theorem Var.wellFormed_encode {v : Var} (h : v.value.Proper) : v.encode.WellFormed := by
  have hvalue : v.value.Keyed List.Nodup := h.wellFormed
  unfold Var.encode textUnlessEmpty
  by_cases hd : v.description = "" <;> simp [Value.WellFormed, hd, hvalue]

theorem ProperVars.wellFormed_encode {vars : List (String × Var)} (h : ProperVars vars) :
    (encodeEntries Var.encode vars).WellFormed := by
  refine .object ?_ (List.forall_mem_map.2 fun e he => Var.wellFormed_encode (h.2 e he))
  rw [List.map_map]
  exact h.1.nodup

theorem TaskVars.wellFormed_encode {v : TaskVars} (h : ProperVars v.vars) :
    v.encode.WellFormed := by
  have hdbrps := Dbrp.wellFormed_encodeAll v.dbrps
  have hvars := h.wellFormed_encode
  unfold Value.WellFormed at *
  simp [TaskVars.encode, hdbrps, hvars]

/-- A task with proper variables is a well-formed value. -/
theorem Task.wellFormed_encode {t : Task} (h : ProperVars t.vars) : t.encode.WellFormed := by
  have hdbrps := Dbrp.wellFormed_encodeAll t.dbrps
  have hvars := h.wellFormed_encode
  have htext := wellFormed_encodeText?
  unfold Value.WellFormed at *
  simp [Task.encode, hdbrps, hvars, htext]

theorem Template.wellFormed_encode (t : Template) : t.encode.WellFormed := by
  simp [Value.WellFormed, Template.encode]

theorem Handler.wellFormed_encode {h : Handler} (hoptions : ProperOptions h.options) :
    h.encode.WellFormed := by
  have hobject : (Value.object h.options).Keyed List.Nodup := Value.Proper.wellFormed hoptions
  unfold Handler.encode textUnlessEmpty
  by_cases hm : h.matching = "" <;> simp [Value.WellFormed, hm, hobject]

theorem LoadConfig.wellFormed_encode (c : LoadConfig) : c.encode.WellFormed := by
  simp [Value.WellFormed, LoadConfig.encode]

/-! ## What is not written -/

/-- The entry of an object with a given key. -/
def Wire.Value.entry? (name : String) : Value → Option Value
  | .object es => lookup? name es
  | _ => none

/-- The description is left out just if it is empty. -/
theorem Var.entry?_description (v : Var) :
    v.encode.entry? "description" = none ↔ v.description = "" := by
  unfold Var.encode textUnlessEmpty
  by_cases hd : v.description = "" <;> simp [Value.entry?, lookup?, hd]

/-- What is matched is left out just if it is empty. -/
theorem Handler.entry?_match (h : Handler) :
    h.encode.entry? "match" = none ↔ h.matching = "" := by
  unfold Handler.encode textUnlessEmpty
  by_cases hm : h.matching = "" <;> simp [Value.entry?, lookup?, hm]

/-- The template of a task is null just if there is none. -/
theorem Task.entry?_templateId (t : Task) :
    t.encode.entry? "template_id" = some .null ↔ t.templateId = none := by
  show some (encodeText? t.templateId) = some .null ↔ t.templateId = none
  cases t.templateId <;> simp [encodeText?]

theorem Task.entry?_type (t : Task) : t.encode.entry? "type" = some .null ↔ t.type = none := by
  show some (encodeText? (t.type.map TaskType.name)) = some .null ↔ t.type = none
  cases t.type <;> simp [encodeText?]

/-! ## There and back -/

/-- Decoding gives back what was encoded: with the entries as they were written, by their keys, and
in any other order. -/
structure Restores {α : Type} (encode : α → Value) (decode : Value → Option α) (a : α) : Prop where
  wellFormed : (encode a).WellFormed
  decode_encode : decode (encode a) = some a
  decode_canonical : decode (encode a).canonical = some a
  decode_reordered (w : Value) : w.SameDocument (encode a) → decode w = some a

/-- What is stable, well-formed and comes back from its own value comes back from its documents. -/
theorem Wire.Value.Stable.restores {α : Type} {encode : α → Value} {decode : Value → Option α}
    {a : α} (hstable : Stable decode) (hwf : (encode a).WellFormed)
    (h : decode (encode a) = some a) : Restores encode decode a where
  wellFormed := hwf
  decode_encode := h
  decode_canonical := (hstable _ hwf).trans h
  decode_reordered _ hw := (hstable.congr hw).trans h

/-- Every resource is read back from what it is written as. The last parts say what is written for
a part that is missing. -/
theorem wire_round_trip :
    (∀ d : Dbrp, Restores Dbrp.encode (Dbrp.decode Value.format) d) ∧
    (∀ v : Var, v.value.Proper → Restores Var.encode (Var.decode Value.format) v) ∧
    (∀ v : TaskVars, ProperVars v.vars →
      Restores TaskVars.encode (TaskVars.decode Value.format) v) ∧
    (∀ t : Task, ProperVars t.vars → Restores Task.encode (Task.decode Value.format) t) ∧
    (∀ t : Template, Restores Template.encode (Template.decode Value.format) t) ∧
    (∀ h : Handler, ProperOptions h.options →
      Restores Handler.encode (Handler.decode Value.format) h) ∧
    (∀ c : LoadConfig, Restores LoadConfig.encode (LoadConfig.decode Value.format) c) ∧
    (∀ v : Var, v.encode.entry? "description" = none ↔ v.description = "") ∧
    (∀ h : Handler, h.encode.entry? "match" = none ↔ h.matching = "") ∧
    (∀ t : Task, (t.encode.entry? "template_id" = some .null ↔ t.templateId = none) ∧
      (t.encode.entry? "type" = some .null ↔ t.type = none)) := by
  refine ⟨?_, ?_, ?_, ?_, ?_, ?_, ?_, Var.entry?_description, Handler.entry?_match,
    fun t => ⟨t.entry?_templateId, t.entry?_type⟩⟩
  · intro d
    exact Dbrp.stable_decode.restores d.wellFormed_encode d.decode_encode
  · intro v hv
    exact Var.stable_decode.restores (Var.wellFormed_encode hv) (Var.decode_encode hv)
  · intro v hv
    exact TaskVars.stable_decode.restores (TaskVars.wellFormed_encode hv)
      (TaskVars.decode_encode hv)
  · intro t ht
    exact Task.stable_decode.restores (Task.wellFormed_encode ht) (Task.decode_encode ht)
  · intro t
    exact Template.stable_decode.restores t.wellFormed_encode t.decode_encode
  · intro h hh
    exact Handler.stable_decode.restores (Handler.wellFormed_encode hh) (Handler.decode_encode hh)
  · intro c
    exact LoadConfig.stable_decode.restores c.wellFormed_encode c.decode_encode

theorem wire_round_trip_nested :
    let value : Value := .object [
      ("a", .array [.null, .float ⟨0x3ff8000000000000⟩,
        .object [("k", .bool true), ("l", .int (-3))]]),
      ("b", .string "")]
    let vars : List (String × Var) := [
      ("x", { type := .star, value }),
      ("y", { type := .int, value := .int 1, description := "d" })]
    let taskVars : TaskVars := { templateId := "T", dbrps := [⟨"d", ""⟩], vars }
    let task : Task := { id := "t", status := .disabled, vars }
    let handler : Handler := { topic := "t", id := "h", kind := "log", options := [("o", value)] }
    (value.Proper ∧ ProperVars vars ∧ ProperOptions handler.options) ∧
    Var.decode Value.format (Var.encode ⟨.star, value, ""⟩) = some ⟨.star, value, ""⟩ ∧
    TaskVars.decode Value.format taskVars.encode = some taskVars ∧
    Task.decode Value.format task.encode = some task ∧
    Handler.decode Value.format handler.encode.canonical = some handler := by
  intro value vars taskVars task handler
  have hvalue : value.Proper := by
    simp only [value, Value.Proper, Value.keyed_object_iff, Value.keyed_array_iff,
      List.forall_mem_cons, Value.keyed_null, Value.keyed_float_iff, Value.keyed_bool,
      Value.keyed_int, Value.keyed_string, true_and]
    refine ⟨by decide, ⟨by decide, ⟨by decide, by simp⟩, by simp⟩, by simp⟩
  have hvars : ProperVars vars :=
    ⟨by decide, List.forall_mem_cons.2 ⟨hvalue, List.forall_mem_singleton.2 (.int 1)⟩⟩
  have hoptions : ProperOptions handler.options :=
    Value.keyed_object_iff.2 ⟨List.pairwise_singleton _ _, List.forall_mem_singleton.2 hvalue⟩
  obtain ⟨-, hvar, htaskVars, htask, -, hhandler, -⟩ := wire_round_trip
  exact ⟨⟨hvalue, hvars, hoptions⟩, (hvar ⟨.star, value, ""⟩ hvalue).decode_encode,
    (htaskVars taskVars hvars).decode_encode, (htask task hvars).decode_encode,
    (hhandler handler hoptions).decode_canonical⟩

end Tickscript
