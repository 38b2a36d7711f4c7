import Tickscript.Proofs.LoadEffects

/-!
# Loading a directory again

Loading a directory twice is the same as loading it once (`Load.run_again`): the second run finds
everything that the first has created, and sets every field to what the first has left there. For
tasks this is not plain, since several files may name one task, and each sets only some fields of
it; but what a field is after a run is what the last file to set it says, and a task that is
created is a blank one that was changed.
-/

namespace Tickscript

/-! ## Pushes done twice -/

namespace Part

variable {κ α : Type} [DecidableEq κ] (part : Part κ α)

/-- The second time the same pushes change nothing. -/
theorem elements_applyAll_again (s : Store) (ps : List Push) :
    part.elements (Push.applyAll (Push.applyAll s ps) ps) = part.elements (Push.applyAll s ps) := by
  rw [part.elements_applyAll (Push.applyAll s ps), part.elements_applyAll s]
  exact Edit.applyAll_applyAll (part.lawful_edits ps) (part.overrides_edits ps) _

/-- What is pushed is known afterwards. -/
theorem isKnown_of_mem {p : Push} {e : Edit κ α} (he : e ∈ part.edit? p) {ps : List Push}
    (hp : p ∈ ps) (s : Store) : p.isKnown (Push.applyAll s ps) = true := by
  rw [part.isKnown _ p e he, part.elements_applyAll]
  exact Edit.finds_applyAll_of_mem (part.lawful_edits ps) (List.mem_filterMap.2 ⟨p, hp, he⟩) _

/-- What is known stays so. -/
theorem isKnown_apply {p q : Push} {e : Edit κ α} (he : e ∈ part.edit? p) {s : Store}
    (h : p.isKnown s = true) : p.isKnown (q.apply s) = true := by
  rw [part.isKnown _ p e he, part.elements_apply]
  rw [part.isKnown _ p e he] at h
  cases hq : part.edit? q with
  | none => exact h
  | some d => exact (part.lawful q d hq).finds_apply h

end Part

namespace Push

/-- After pushes a store knows what was pushed. -/
theorem isKnown_applyAll {p : Push} {ps : List Push} (hp : p ∈ ps) (s : Store) :
    p.isKnown (applyAll s ps) = true := by
  cases p with
  | task => exact Part.tasks.isKnown_of_mem rfl hp s
  | template => exact Part.templates.isKnown_of_mem rfl hp s
  | handler => exact Part.handlers.isKnown_of_mem rfl hp s

/-- A push makes a store forget nothing. -/
theorem isKnown_apply {p q : Push} {s : Store} (h : p.isKnown s = true) :
    p.isKnown (q.apply s) = true := by
  cases p with
  | task => exact Part.tasks.isKnown_apply rfl h
  | template => exact Part.templates.isKnown_apply rfl h
  | handler => exact Part.handlers.isKnown_apply rfl h

/-- What a store knows before the first push is reported as updated. -/
theorem loadedAll_of_known {ps : List Push} {s : Store} (h : ∀ p ∈ ps, p.isKnown s = true) :
    loadedAll s ps = ps.map fun p => ⟨p.kind, p.id, .updated⟩ := by
  induction ps generalizing s with
  | nil => rfl
  | cons p ps ih =>
    have hrest := ih fun q hq => isKnown_apply (q := p) (h q (by simp [hq]))
    rw [loadedAll, hrest, loaded, action_of_known (h p (by simp))]
    rfl

/-- The second time everything is reported as updated. -/
theorem loadedAll_again (s : Store) (ps : List Push) :
    loadedAll (applyAll s ps) ps =
      (loadedAll s ps).map fun l => { l with action := .updated } := by
  have hnames := congrArg (List.map fun x : ResourceKind × String =>
    (⟨x.1, x.2, .updated⟩ : Loaded)) (map_loadedAll s ps)
  rw [List.map_map, List.map_map] at hnames
  rw [loadedAll_of_known fun p hp => isKnown_applyAll hp s]
  exact hnames.symm

end Push

/-! ## Loads done twice -/

/-- The stores keep the same resources, whatever calls they have noted. -/
structure Store.SameAs (s t : Store) : Prop where
  tasks : s.tasks = t.tasks
  templates : s.templates = t.templates
  handlers : s.handlers = t.handlers

namespace Load

/-- A second load of the same items leaves the resources as they are. -/
theorem storeAfter_again (s : Store) (items : List Item) :
    (storeAfter (storeAfter s items) items).SameAs (storeAfter s items) where
  tasks := Part.tasks.elements_applyAll_again s (pushes items)
  templates := Part.templates.elements_applyAll_again s (pushes items)
  handlers := Part.handlers.elements_applyAll_again s (pushes items)

/-- Loading a directory a second time changes no resource. The files that failed fail again for
the same reasons, and what was loaded is loaded again, now as something that was there; a load that
was ended by a subdirectory ends there again. -/
theorem run_again [Libraries] (fs : FileSystem) (c : LoadConfig) (s : Store) :
    (∀ r s', run Store.service fs c s = .ok r s' →
      ∃ s'', run Store.service fs c s' =
          .ok ⟨r.loaded.map fun l => { l with action := .updated }, r.failed⟩ s'' ∧
        s''.SameAs s') ∧
    ∀ e s', run Store.service fs c s = .error e s' →
      ∃ s'', run Store.service fs c s' = .error e s'' ∧ s''.SameAs s' := by
  constructor
  · intro r s' h
    obtain ⟨items, hplan, rfl, rfl⟩ := run_store_ok_iff.1 h
    refine ⟨_, run_store_ok_iff.2 ⟨items, hplan, ?_, rfl⟩, storeAfter_again s items⟩
    exact congrArg (LoadReport.mk · (failures items)) (Push.loadedAll_again s (pushes items)).symm
  · intro e s' h
    obtain ⟨items, hplan, rfl⟩ := run_store_error_iff.1 h
    exact ⟨_, run_store_error_iff.2 ⟨items, hplan, rfl⟩, storeAfter_again s items⟩

section Sample

attribute [local instance] libraries

/-- What was created the first time is updated the second time, and a file that failed fails
again. -/
theorem run_again_sample : ∃ r s' s'',
    run Store.service sampleFiles ⟨true, "/d"⟩ .empty = .ok r s' ∧
    r.loaded = [⟨.task, "a", .created⟩, ⟨.template, "T", .created⟩, ⟨.task, "v", .created⟩] ∧
    r.failed = [("/d/handlers/h.json", .malformedJson "/d/handlers/h.json")] ∧
    run Store.service sampleFiles ⟨true, "/d"⟩ s' =
      .ok ⟨[⟨.task, "a", .updated⟩, ⟨.template, "T", .updated⟩, ⟨.task, "v", .updated⟩], r.failed⟩
        s'' ∧
    s''.SameAs s' := by
  have hrun : endsIn (fun r _ => decide (
      r.loaded = [⟨.task, "a", .created⟩, ⟨.template, "T", .created⟩, ⟨.task, "v", .created⟩] ∧
      r.failed = [("/d/handlers/h.json", .malformedJson "/d/handlers/h.json")]))
      (run Store.service sampleFiles ⟨true, "/d"⟩ .empty) = true := by
    decide +kernel
  obtain ⟨r, s', h, hends⟩ := exists_of_endsIn hrun
  obtain ⟨hloaded, hfailed⟩ := of_decide_eq_true hends
  obtain ⟨s'', hagain, hsame⟩ := (run_again sampleFiles ⟨true, "/d"⟩ .empty).1 r s' h
  rw [hloaded] at hagain
  exact ⟨r, s', s'', h, hloaded, hfailed, hagain, hsame⟩

end Sample

end Load

end Tickscript
