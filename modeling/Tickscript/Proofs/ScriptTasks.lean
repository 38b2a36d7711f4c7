import Tickscript.Proofs.Reloading

/-!
# Tasks that are loaded from scripts

A task script sets the type, the databases, the script and the status of its task. A task that is
created from it has no template and no variables; a task that is there keeps the template and the
variables that it had, since a change leaves alone what it does not mention. In nothing else does
a task that was there differ from one that is created (`Load.run_task_of_script`).
-/

namespace Tickscript

namespace Task

/-- The task with the template and the variables of another, or with none if there is no other. -/
def withTemplateOf (t : Task) (old : Option Task) : Task :=
  { t with templateId := old.bind (·.templateId), vars := (old.map (·.vars)).getD [] }

/-- The task has no template and no variables. -/
structure IsPlain (t : Task) : Prop where
  templateId : t.templateId = none
  vars : t.vars = []

/-- A template and variables that were handed on once can be handed on again. -/
theorem withTemplateOf_withTemplateOf (t u : Task) (old : Option Task) :
    t.withTemplateOf (some (u.withTemplateOf old)) = t.withTemplateOf old := rfl

/-- A plain task is what it is with the template and the variables of another just if the other is
plain as well. -/
theorem IsPlain.withTemplateOf_eq_iff {t : Task} (h : t.IsPlain) (old : Option Task) :
    t.withTemplateOf old = t ↔ ∀ u ∈ old, u.IsPlain := by
  obtain ⟨htemplate, hvars⟩ := h
  cases old with
  | none =>
    refine ⟨fun _ => nofun, fun _ => ?_⟩
    cases t
    simp_all [withTemplateOf]
  | some u =>
    constructor
    · intro heq v hv
      cases hv
      exact ⟨(congrArg Task.templateId heq).trans htemplate,
        (congrArg Task.vars heq).trans hvars⟩
    · intro hu
      obtain ⟨hut, huv⟩ := hu u rfl
      cases t
      simp_all [withTemplateOf]

end Task

/-! ## One push -/

/-- The change is one that a task script makes. -/
structure TaskChange.OfScript (c : TaskChange) : Prop where
  type : c.type.isSome = true
  dbrps : c.dbrps.isSome = true
  script : c.script.isSome = true
  templateId : c.templateId = none
  vars : c.vars = none

namespace TaskChange.OfScript

variable {c : TaskChange}

/-- What a script leaves of a task is its id, its template and its variables. -/
theorem reload_eq (h : c.OfScript) {t u : Task} (hid : t.id = u.id) :
    c.reload t = (c.reload u).withTemplateOf (some t) := by
  obtain ⟨type, htype⟩ := Option.isSome_iff_exists.1 h.type
  obtain ⟨dbrps, hdbrps⟩ := Option.isSome_iff_exists.1 h.dbrps
  obtain ⟨script, hscript⟩ := Option.isSome_iff_exists.1 h.script
  simp [reload, apply, toStatus, Task.withTemplateOf, htype, hdbrps, hscript, h.templateId, h.vars,
    hid]

/-- A change from a script leaves a plain task plain. -/
theorem isPlain_reload (h : c.OfScript) {t : Task} (ht : t.IsPlain) : (c.reload t).IsPlain := by
  constructor
  · simp [reload, apply, toStatus, h.templateId, ht.templateId]
  · simp [reload, apply, toStatus, h.vars, ht.vars]

end TaskChange.OfScript

namespace Push

/-- What becomes of the task with an id, if there is one. -/
def taskAfter (id : String) (found : Option Task) : Push → Option Task
  | task id' c _ => if id' = id then some (c.reload (found.getD (.blank id))) else found
  | template _ | handler _ => found

/-- What is found after a push is what the push makes of what was found before. -/
theorem findTask?_apply (p : Push) (s : Store) (id : String) :
    (p.apply s).findTask? id = p.taskAfter id (s.findTask? id) := by
  rw [Store.findTask?_eq, Store.findTask?_eq]
  cases p with
  | task id' c hc =>
    have hlawful := Part.tasks.lawful (task id' c hc) _ rfl
    by_cases hid : id' = id
    · subst hid
      rw [taskAfter, if_pos rfl]
      exact hlawful.find?_apply_self s.tasks
    · rw [taskAfter, if_neg hid]
      exact hlawful.find?_apply (Ne.symm hid) s.tasks
  | template | handler => rfl

/-- Whatever a push does to the task with an id is what a script does. -/
def ScriptsOnly (id : String) (p : Push) : Prop := ∀ c hc, p = task id c hc → c.OfScript

end Push

/-! ## Two runs of the same pushes -/

/-- What is found under an id in two runs of the same pushes, one from nothing and one from `old`:
nothing yet and still `old`, or a plain task and the same with the template and the variables of
`old`. -/
inductive Task.Recreated (old : Option Task) : Option Task → Option Task → Prop where
  | untouched : Recreated old none old
  | plain {u : Task} (h : u.IsPlain) : Recreated old (some u) (some (u.withTemplateOf old))

namespace Push

variable {id : String} {old : Option Task}

/-- One push keeps the two runs in step. -/
theorem recreated_taskAfter (hold : ∀ t ∈ old, t.id = id) {p : Push} (hp : p.ScriptsOnly id)
    {fresh now : Option Task} (h : Task.Recreated old fresh now) :
    Task.Recreated old (p.taskAfter id fresh) (p.taskAfter id now) := by
  cases p with
  | template | handler => exact h
  | task id' c hc =>
    simp only [taskAfter]
    by_cases hid : id' = id
    · subst hid
      have hc : c.OfScript := hp c hc rfl
      rw [if_pos rfl, if_pos rfl]
      cases h with
      | untouched =>
        have heq : c.reload (old.getD (.blank id')) =
            (c.reload (.blank id')).withTemplateOf old := by
          cases old with
          | none => exact hc.reload_eq rfl
          | some t => exact hc.reload_eq (hold t rfl)
        rw [Option.getD_none, heq]
        exact .plain (hc.isPlain_reload ⟨rfl, rfl⟩)
      | @plain u hu =>
        have heq : c.reload (u.withTemplateOf old) = (c.reload u).withTemplateOf old :=
          (hc.reload_eq rfl).trans (Task.withTemplateOf_withTemplateOf _ u old)
        rw [Option.getD_some, Option.getD_some, heq]
        exact .plain (hc.isPlain_reload hu)
    · rw [if_neg hid, if_neg hid]
      exact h

/-- The two runs stay in step. -/
theorem recreated_applyAll (hold : ∀ t ∈ old, t.id = id) {ps : List Push}
    (hps : ∀ p ∈ ps, p.ScriptsOnly id) {s₀ s : Store}
    (h : Task.Recreated old (s₀.findTask? id) (s.findTask? id)) :
    Task.Recreated old ((applyAll s₀ ps).findTask? id) ((applyAll s ps).findTask? id) := by
  induction ps generalizing s₀ s with
  | nil => exact h
  | cons p ps ih =>
    refine ih (fun q hq => hps q (by simp [hq])) ?_
    rw [findTask?_apply, findTask?_apply]
    exact recreated_taskAfter hold (hps p (by simp)) h

end Push

/-- A task is found under its own id. -/
theorem Store.id_of_findTask? {s : Store} {id : String} : ∀ t ∈ s.findTask? id, t.id = id := by
  intro t ht
  rw [findTask?_eq] at ht
  simpa using List.find?_some (Option.mem_def.1 ht)

/-! ## Loads -/

namespace Load

variable {fs : FileSystem} {c : LoadConfig} {x : String}

/-- Where no document of variables has the id, only scripts are about the task. -/
theorem scriptsOnly_of_mem_plan [Libraries]
    (hvars : ∀ scripts documents, c.templateFiles fs = .ok (scripts, documents) →
      ∀ path ∈ documents, Path.stem path ≠ x)
    {i : Item} (hi : i ∈ (plan fs c).1) {p : Push} (hp : i.content = .ok p) : p.ScriptsOnly x := by
  rintro change hc rfl
  cases inPlan_of_mem hi with
  | script hfiles hpath =>
    obtain ⟨script, -, htask⟩ := exists_of_map_eq_ok hp
    obtain ⟨-, rfl⟩ := Push.task.inj htask
    exact ⟨rfl, rfl, rfl, rfl, rfl⟩
  | template hfiles hpath =>
    obtain ⟨script, -, htemplate⟩ := exists_of_map_eq_ok hp
    cases htemplate
  | vars hfiles hpath =>
    obtain ⟨v, -, htask⟩ := exists_of_map_eq_ok hp
    exact absurd (Push.task.inj htask).1 (hvars _ _ hfiles _ hpath)
  | handler hfiles hpath =>
    obtain ⟨h, -, hhandler⟩ := exists_of_map_eq_ok hp
    cases hhandler

/-- What is pushed is what the items hold, in their order. -/
theorem mem_pushes {items : List Item} {p : Push} :
    p ∈ pushes items ↔ ∃ i ∈ items, i.content = .ok p := by
  rw [pushes, List.mem_filterMap]
  refine exists_congr fun i => and_congr_right fun _ => ?_
  unfold Item.push?
  cases i.content <;> simp [Except.toOption]

/-- A task that is loaded from a script, and that no document of variables is about, ends up as it
would in an empty store, but for the template and the variables: those are the ones that the task
had before. So it ends up the same just if it had none. -/
theorem run_task_of_script [Libraries] {s s' : Store} {r : LoadReport} {a : LoadAction}
    (h : run Store.service fs c s = .ok r s') (hloaded : ⟨.task, x, a⟩ ∈ r.loaded)
    (hvars : ∀ scripts documents, c.templateFiles fs = .ok (scripts, documents) →
      ∀ path ∈ documents, Path.stem path ≠ x) :
    ∃ r₀ s₀ u, run Store.service fs c .empty = .ok r₀ s₀ ∧ s₀.findTask? x = some u ∧ u.IsPlain ∧
      s'.findTask? x = some (u.withTemplateOf (s.findTask? x)) ∧
      (s'.findTask? x = s₀.findTask? x ↔ ∀ t ∈ s.findTask? x, t.IsPlain) := by
  obtain ⟨items, hplan, rfl, rfl⟩ := run_store_ok_iff.1 h
  have hscripts : ∀ p ∈ pushes items, p.ScriptsOnly x := by
    intro p hp
    obtain ⟨i, hi, hcontent⟩ := mem_pushes.1 hp
    refine scriptsOnly_of_mem_plan hvars ?_ hcontent
    rw [hplan]
    exact hi
  have hstep : Task.Recreated (s.findTask? x) ((Push.applyAll .empty (pushes items)).findTask? x)
      ((Push.applyAll s (pushes items)).findTask? x) :=
    Push.recreated_applyAll Store.id_of_findTask? hscripts .untouched
  -- The loaded task was pushed, so it is there also after the run from nothing.
  have hpushed : (.task, x) ∈ (pushes items).map fun p => (p.kind, p.id) := by
    rw [← Push.map_loadedAll s]
    exact List.mem_map.2 ⟨_, hloaded, rfl⟩
  obtain ⟨p, hp, hpx⟩ := List.mem_map.1 hpushed
  have hthere : ((Push.applyAll .empty (pushes items)).findTask? x).isSome = true := by
    cases p with
    | task id change hc =>
      cases hpx
      exact Push.isKnown_applyAll hp .empty
    | template | handler => cases hpx
  refine ⟨report .empty items, storeAfter .empty items, ?_⟩
  unfold storeAfter
  cases hfresh : (Push.applyAll .empty (pushes items)).findTask? x with
  | none =>
    rw [hfresh] at hthere
    cases hthere
  | some u =>
    rw [hfresh] at hstep
    generalize hnow : (Push.applyAll s (pushes items)).findTask? x = now at hstep
    cases hstep with
    | plain hu =>
      refine ⟨u, run_store_ok_iff.2 ⟨items, hplan, rfl, rfl⟩, rfl, hu, rfl, ?_⟩
      rw [Option.some_inj]
      exact hu.withTemplateOf_eq_iff _

section Sample

attribute [local instance] libraries

/-- A task that runs a template. -/
def templateTask : Task where
  id := "a"
  templateId := some "T"
  type := some .batch
  status := .disabled
  vars := [("n", ⟨.int, .int 1, ""⟩)]

theorem stem_ne_of_sampleFiles (scripts documents : List String)
    (hfiles : LoadConfig.templateFiles ⟨true, "/d"⟩ sampleFiles = .ok (scripts, documents)) :
    ∀ path ∈ documents, Path.stem path ≠ "a" := by
  have hlist : LoadConfig.templateFiles ⟨true, "/d"⟩ sampleFiles =
      .ok (["/d/templates/T.tick"], ["/d/templates/v.json"]) := by decide +kernel
  rw [hlist] at hfiles
  cases hfiles
  decide +kernel

theorem run_templateTask : endsIn (fun r s' => decide (
      (⟨.task, "a", .updated⟩ : Loaded) ∈ r.loaded ∧
      (s'.findTask? "a").bind (·.templateId) = some "T"))
    (run Store.service sampleFiles ⟨true, "/d"⟩ { tasks := [templateTask] }) = true := by
  decide +kernel

/-- The script takes over a task that runs a template, and the template stays on it. -/
theorem run_task_of_script_sample : ∃ r s' r₀ s₀ u,
    run Store.service sampleFiles ⟨true, "/d"⟩ { tasks := [templateTask] } = .ok r s' ∧
    (⟨.task, "a", .updated⟩ : Loaded) ∈ r.loaded ∧
    run Store.service sampleFiles ⟨true, "/d"⟩ .empty = .ok r₀ s₀ ∧
    s₀.findTask? "a" = some u ∧ u.IsPlain ∧
    s'.findTask? "a" = some { u with templateId := some "T", vars := templateTask.vars } := by
  obtain ⟨r, s', h, hends⟩ := exists_of_endsIn run_templateTask
  obtain ⟨hloaded, -⟩ := of_decide_eq_true hends
  obtain ⟨r₀, s₀, u, h₀, hfound, hu, hnow, -⟩ :=
    run_task_of_script h hloaded stem_ne_of_sampleFiles
  exact ⟨r, s', r₀, s₀, u, h, hloaded, h₀, hfound, hu, hnow⟩

/-- A task that was there does not always end up as one that is created. -/
theorem run_task_of_script_differs : ¬ ∀ fs c x a s s' r r₀ s₀,
    run Store.service fs c s = .ok r s' → ⟨.task, x, a⟩ ∈ r.loaded →
    (∀ scripts documents, c.templateFiles fs = .ok (scripts, documents) →
      ∀ path ∈ documents, Path.stem path ≠ x) →
    run Store.service fs c .empty = .ok r₀ s₀ → s'.findTask? x = s₀.findTask? x := by
  intro hsame
  obtain ⟨r, s', h, hends⟩ := exists_of_endsIn run_templateTask
  obtain ⟨hloaded, htemplate⟩ := of_decide_eq_true hends
  have hfresh : endsIn (fun _ s₀ => decide ((s₀.findTask? "a").bind (·.templateId) = none))
      (run Store.service sampleFiles ⟨true, "/d"⟩ .empty) = true := by
    decide +kernel
  obtain ⟨r₀, s₀, h₀, hnone⟩ := exists_of_endsIn hfresh
  rw [hsame _ _ _ _ _ _ _ _ _ h hloaded stem_ne_of_sampleFiles h₀,
    of_decide_eq_true hnone] at htemplate
  cases htemplate

end Sample

end Load

end Tickscript
