import Tickscript.Load.Run
import Tickscript.Proofs.KeyedEdits
import Tickscript.Service.Store

/-!
# What is pushed from a file

All that a file of a load directory asks of a service is one *push*: a task, a template or a
handler is created, or changed if the service knows it. Which push that is, or why there is none,
does not depend on the service (`Load.taskScript_eq` and its kin).

Over a store no push fails, whatever the store holds: `Push.run_store` says what the store is after
it, and which calls are logged. On the lists of the store a push is an edit by key.
-/

namespace Tickscript

/-- A task that is switched on and has nothing to run yet. -/
def Task.blank (id : String) : Task := { id := id, status := .enabled }

/-- A resource to be created, or changed if it is there. A change that is pushed does not switch the
task on or off by itself. -/
inductive Push where
  | task (id : String) (c : TaskChange) (hc : c.status = none)
  | template (t : Template)
  | handler (h : Handler)

namespace Push

/-- The kind of the resource. -/
def kind : Push → ResourceKind
  | task .. => .task
  | template _ => .template
  | handler _ => .handler

/-- The id of the resource, as reports show it. -/
def id : Push → String
  | task id .. => id
  | template t => t.id
  | handler h => h.topic ++ "/" ++ h.id

/-- Asks for a resource to be created, or replaced if it is found. -/
def createOrReplace {σ α β : Type} (found : Request σ (Option α)) (create replace : Request σ β)
    (kind : ResourceKind) (id : String) : Load σ Loaded := do
  match ← Load.ask found with
  | none =>
    let _ ← Load.ask create
    return ⟨kind, id, .created⟩
  | some _ =>
    let _ ← Load.ask replace
    return ⟨kind, id, .updated⟩

/-- Asks a service for what is pushed. -/
def run {σ : Type} (svc : Service σ) : Push → Load σ Loaded
  | task id c _ => Load.pushTask svc (c.apply (.blank id)) c
  | template t =>
    createOrReplace (svc.template t.id) (svc.createTemplate t) (svc.updateTemplate t) .template t.id
  | handler h =>
    createOrReplace (svc.handler h.topic h.id) (svc.createHandler h) (svc.replaceHandler h) .handler
      (h.topic ++ "/" ++ h.id)

end Push

/-! ## Files as pushes -/

namespace Load

variable {σ : Type}

/-- A file is loaded by pushing what it holds, if it holds anything. -/
def push (svc : Service σ) (content : Except LoadError Push) : Load σ Loaded :=
  ofExcept content >>= Push.run svc

/-- A request that succeeds hands its answer on. -/
theorem ask_bind_ok {α β : Type} {r : Request σ α} {f : α → Load σ β} {s s' : σ} {a : α}
    (h : r s = .ok a s') : (ask r >>= f) s = f a s' := by
  show EStateM.bind (ask r) f s = f a s'
  simp only [EStateM.bind, ask, h]

@[simp]
theorem push_error (svc : Service σ) (e : LoadError) (s : σ) :
    push svc (.error e) s = .error e s := rfl

@[simp]
theorem push_ok (svc : Service σ) (p : Push) (s : σ) : push svc (.ok p) s = p.run svc s := rfl

theorem exists_of_map_eq_ok {α β ε : Type} {x : Except ε α} {f : α → β} {b : β}
    (h : x.map f = .ok b) : ∃ a, x = .ok a ∧ f a = b := by
  cases x with
  | error e => cases h
  | ok a =>
    cases h
    exact ⟨a, rfl, rfl⟩

variable [Libraries]

/-- What is pushed from a task script. -/
def scriptPush (fs : FileSystem) (path : String) : Except LoadError Push :=
  (readScript fs path).map fun (script, p) =>
    .task (Path.stem path)
      { type := some p.taskType, dbrps := some p.dbrpList, script := some script } rfl

/-- What is pushed from a template script. -/
def templatePush (fs : FileSystem) (path : String) : Except LoadError Push :=
  (readScript fs path).map fun (script, p) => .template ⟨Path.stem path, p.taskType, script⟩

/-- What is pushed from the variables of a task, if `ts` are the templates before. -/
def varsPush (fs : FileSystem) (ts : Templates) (path : String) : Except LoadError Push :=
  (readVars fs ts path).map fun v =>
    .task (Path.stem path)
      { templateId := some v.templateId,
        type := (Wire.lookup? v.templateId ts).map Program.taskType,
        dbrps := some v.dbrps, vars := some v.vars } rfl

/-- What is pushed from a document with a handler. -/
def handlerPush (fs : FileSystem) (path : String) : Except LoadError Push :=
  (readDocument Handler.decode fs path).map .handler

/-- Loading a task script is pushing what it holds. -/
theorem taskScript_eq (svc : Service σ) (fs : FileSystem) (path : String) :
    taskScript svc fs path = push svc (scriptPush fs path) := by
  unfold taskScript scriptPush
  generalize Path.stem path = id
  cases readScript fs path <;> rfl

/-- Loading a template script is pushing what it holds, and keeps the program for later. -/
theorem templateScript_eq (svc : Service σ) (fs : FileSystem) (path : String) :
    templateScript svc fs path = (do
      let (_, p) ← ofExcept (readScript fs path)
      let l ← push svc (templatePush fs path)
      return (l, p)) := by
  unfold templateScript templatePush
  generalize Path.stem path = id
  cases readScript fs path with
  | error e => rfl
  | ok script =>
    obtain ⟨script, p⟩ := script
    show (ask (svc.template id) >>= _) =
      (ask (svc.template id) >>= _) >>= fun l => pure (l, p)
    rw [bind_assoc]
    congr 1
    funext found
    cases found <;> simp only [bind_assoc, pure_bind]

/-- Loading variables of a task is pushing what they say. -/
theorem taskVars_eq (svc : Service σ) (fs : FileSystem) (ts : Templates) (path : String) :
    taskVars svc fs ts path = push svc (varsPush fs ts path) := by
  unfold taskVars varsPush
  generalize Path.stem path = id
  cases readVars fs ts path with
  | error e => rfl
  | ok v =>
    show pushTask svc _ _ = pushTask svc (TaskChange.apply _ (.blank _)) _
    simp [TaskChange.apply, Task.blank]

/-- Loading a handler is pushing it. -/
theorem handler_eq (svc : Service σ) (fs : FileSystem) (path : String) :
    handler svc fs path = push svc (handlerPush fs path) := by
  unfold handler handlerPush
  cases readDocument Handler.decode fs path with
  | error e => rfl
  | ok h =>
    show (ask (svc.handler h.topic h.id) >>= _) = (ask (svc.handler h.topic h.id) >>= _)
    congr 1
    funext found
    cases found <;> rfl

end Load

/-! ## Pushes to a store -/

/-- A task after a change, switched off and on again. -/
def TaskChange.reload (c : TaskChange) (t : Task) : Task :=
  (toStatus .enabled).apply ((toStatus .disabled).apply (c.apply t))

/-- What tells handlers apart. -/
def Handler.key (h : Handler) : String × String := (h.topic, h.id)

namespace Push

/-- The edit of the tasks of a store. -/
def taskEdit? : Push → Option (Edit String Task)
  | task id c _ => some ⟨id, c.reload, .blank id⟩
  | _ => none

/-- The edit of the templates of a store. -/
def templateEdit? : Push → Option (Edit String Template)
  | template t => some ⟨t.id, fun _ => t, t⟩
  | _ => none

/-- The edit of the handlers of a store. -/
def handlerEdit? : Push → Option (Edit (String × String) Handler)
  | handler h => some ⟨h.key, fun _ => h, h⟩
  | _ => none

/-- Whether a store has the resource. -/
def isKnown (s : Store) : Push → Bool
  | task id .. => (s.findTask? id).isSome
  | template t => (s.findTemplate? t.id).isSome
  | handler h => (s.findHandler? h.topic h.id).isSome

/-- What a push to a store does. -/
def action (s : Store) (p : Push) : LoadAction := if p.isKnown s then .updated else .created

/-- The calls that a store notes. -/
def calls : Push → LoadAction → List StoreCall
  | task id .., .created => [.createTask id]
  | task id .., .updated =>
    [.updateTask id none, .updateTask id (some .disabled), .updateTask id (some .enabled)]
  | template t, .created => [.createTemplate t.id]
  | template t, .updated => [.updateTemplate t.id]
  | handler h, .created => [.createHandler h.topic h.id]
  | handler h, .updated => [.replaceHandler h.topic h.id]

/-- How a push to a store is reported. -/
def loaded (s : Store) (p : Push) : Loaded := ⟨p.kind, p.id, p.action s⟩

/-- The store after a push. -/
def apply (s : Store) (p : Push) : Store where
  tasks := p.taskEdit?.elim s.tasks (·.apply Task.id s.tasks)
  templates := p.templateEdit?.elim s.templates (·.apply Template.id s.templates)
  handlers := p.handlerEdit?.elim s.handlers (·.apply Handler.key s.handlers)
  calls := s.calls ++ p.calls (p.action s)

end Push

namespace Store

/-- Tasks are found by their ids. -/
theorem findTask?_eq (s : Store) (id : String) :
    s.findTask? id = s.tasks.find? fun t => t.id = id := by
  simp only [findTask?, beq_eq_decide]

/-- Templates are found by their ids. -/
theorem findTemplate?_eq (s : Store) (id : String) :
    s.findTemplate? id = s.templates.find? fun t => t.id = id := by
  simp only [findTemplate?, beq_eq_decide]

/-- Handlers are found by topic and id. -/
theorem findHandler?_eq (s : Store) (topic id : String) :
    s.findHandler? topic id = s.handlers.find? fun h => h.key = (topic, id) := by
  simp [findHandler?, Handler.key, beq_eq_decide]

/-- The store after a change of the task with an id. -/
def withChange (s : Store) (id : String) (c : TaskChange) : Store :=
  { s with
    tasks := s.tasks.map fun t => if t.id = id then c.apply t else t
    calls := s.calls ++ [.updateTask id c.status] }

/-- A task that is there can be changed. -/
theorem updateTask_of_known {s : Store} {id : String} (h : (s.findTask? id).isSome = true)
    (c : TaskChange) : ∃ t, updateTask id c s = .ok t (s.withChange id c) := by
  obtain ⟨t, ht⟩ := Option.isSome_iff_exists.1 h
  refine ⟨c.apply t, ?_⟩
  simp only [updateTask, ht, withChange, beq_iff_eq]

/-- A task that was changed is there still. -/
theorem isSome_findTask?_withChange {s : Store} {id : String}
    (h : (s.findTask? id).isSome = true) (c : TaskChange) :
    ((s.withChange id c).findTask? id).isSome = true := by
  rw [findTask?_eq, List.find?_isSome] at h ⊢
  obtain ⟨t, ht, hid⟩ := h
  have hid : t.id = id := of_decide_eq_true hid
  exact ⟨c.apply t, List.mem_map.2 ⟨t, ht, if_pos hid⟩, decide_eq_true hid⟩

end Store

/-- A task that is there is changed, switched off and switched on. -/
theorem Load.pushTask_of_known {s : Store} {t : Task}
    (h : (s.findTask? t.id).isSome = true) (c : TaskChange) :
    pushTask Store.service t c s = .ok ⟨.task, t.id, .updated⟩
      (((s.withChange t.id c).withChange t.id (.toStatus .disabled)).withChange t.id
        (.toStatus .enabled)) := by
  have hdisable := Store.isSome_findTask?_withChange h c
  have henable := Store.isSome_findTask?_withChange hdisable (.toStatus .disabled)
  obtain ⟨t₁, h₁⟩ := Store.updateTask_of_known h c
  obtain ⟨t₂, h₂⟩ := Store.updateTask_of_known hdisable (.toStatus .disabled)
  obtain ⟨t₃, h₃⟩ := Store.updateTask_of_known henable (.toStatus .enabled)
  obtain ⟨t₀, h₀⟩ := Option.isSome_iff_exists.1 h
  have hlook : Store.service.task t.id s = .ok (some t₀) s := by rw [← h₀]; rfl
  rw [pushTask, ask_bind_ok hlook]
  show (ask (Store.updateTask _ _) >>= _) s = _
  rw [ask_bind_ok h₁]
  show (ask (Store.updateTask _ _) >>= _) _ = _
  rw [ask_bind_ok h₂]
  show (ask (Store.updateTask _ _) >>= _) _ = _
  rw [ask_bind_ok h₃]
  rfl

/-- A task that is not there is added, and nothing else is asked for. -/
theorem Load.pushTask_of_new {s : Store} {t : Task} (h : s.findTask? t.id = none) (c : TaskChange) :
    pushTask Store.service t c s = .ok ⟨.task, t.id, .created⟩
      { s with tasks := s.tasks ++ [t], calls := s.calls ++ [.createTask t.id] } := by
  have hlook : Store.service.task t.id s = .ok none s := by rw [← h]; rfl
  have hcreate : Store.createTask t s =
      .ok t { s with tasks := s.tasks ++ [t], calls := s.calls ++ [.createTask t.id] } := by
    rw [Store.createTask, h]
  rw [pushTask, ask_bind_ok hlook]
  show (ask (Store.createTask t) >>= _) s = _
  rw [ask_bind_ok hcreate]
  rfl

/-- A new task is the blank one after the change, and switched on. -/
theorem TaskChange.apply_blank {c : TaskChange} (hc : c.status = none) (id : String) :
    c.apply (.blank id) = c.reload (.blank id) := by
  simp [apply, reload, toStatus, Task.blank, hc]

/-- The three changes of a task that is loaded again are one edit. -/
theorem Store.withChange_reload (s : Store) (id : String) (c : TaskChange) :
    ((s.withChange id c).withChange id (.toStatus .disabled)).withChange id (.toStatus .enabled) =
      { s with
        tasks := s.tasks.map ((⟨id, c.reload, .blank id⟩ : Edit String Task).touch Task.id)
        calls := s.calls ++ [.updateTask id c.status, .updateTask id (some .disabled),
          .updateTask id (some .enabled)] } := by
  have htasks : ∀ t : Task, (⟨id, c.reload, .blank id⟩ : Edit String Task).touch Task.id t =
      if t.id = id then (TaskChange.toStatus .enabled).apply
        ((TaskChange.toStatus .disabled).apply (c.apply t)) else t := fun _ => rfl
  simp only [withChange, List.map_map, List.append_assoc, List.cons_append, List.nil_append,
    TaskChange.toStatus, mk.injEq, and_true]
  refine List.map_congr_left fun t _ => ?_
  rw [htasks t]
  by_cases ht : t.id = id
  · simp [ht, TaskChange.apply, TaskChange.toStatus]
  · simp [ht]

namespace Push

theorem action_of_known {p : Push} {s : Store} (h : p.isKnown s = true) : p.action s = .updated :=
  if_pos h

theorem action_of_new {p : Push} {s : Store} (h : p.isKnown s = false) : p.action s = .created := by
  simp [action, h]

/-- A task is there just if its edit finds one. -/
theorem isKnown_task (s : Store) (id : String) (c : TaskChange) (hc : c.status = none) :
    (task id c hc).isKnown s =
      (⟨id, c.reload, .blank id⟩ : Edit String Task).finds Task.id s.tasks := by
  rw [isKnown, Store.findTask?_eq, ← Edit.isSome_find?]

theorem isKnown_template (s : Store) (t : Template) :
    (template t).isKnown s =
      (⟨t.id, fun _ => t, t⟩ : Edit String Template).finds Template.id s.templates := by
  rw [isKnown, Store.findTemplate?_eq, ← Edit.isSome_find?]

theorem isKnown_handler (s : Store) (h : Handler) :
    (handler h).isKnown s =
      (⟨h.key, fun _ => h, h⟩ : Edit (String × String) Handler).finds Handler.key s.handlers := by
  rw [isKnown, Store.findHandler?_eq, ← Edit.isSome_find?]
  rfl

/-- A push of a task to a store succeeds, whatever is there. -/
theorem run_store_task (s : Store) (id : String) (c : TaskChange) (hc : c.status = none) :
    (task id c hc).run Store.service s =
      .ok ((task id c hc).loaded s) ((task id c hc).apply s) := by
  have hfinds := isKnown_task s id c hc
  have happly : (task id c hc).apply s = { s with
      tasks := (⟨id, c.reload, .blank id⟩ : Edit String Task).apply Task.id s.tasks
      calls := s.calls ++ (task id c hc).calls ((task id c hc).action s) } := rfl
  cases ht : s.findTask? id with
  | some t =>
    have hknown : (task id c hc).isKnown s = true := by rw [isKnown, ht]; rfl
    have hrun := @Load.pushTask_of_known s (c.apply (.blank id)) hknown c
    rw [happly, loaded, action_of_known hknown, Edit.apply_of_finds (hfinds ▸ hknown)]
    refine hrun.trans ?_
    show EStateM.Result.ok _ (((s.withChange id c).withChange id _).withChange id _) = _
    rw [Store.withChange_reload, hc]
    rfl
  | none =>
    have hnew : (task id c hc).isKnown s = false := by rw [isKnown, ht]; rfl
    have hrun := @Load.pushTask_of_new s (c.apply (.blank id)) ht c
    rw [happly, loaded, action_of_new hnew, Edit.apply_of_not_finds (hfinds ▸ hnew)]
    refine hrun.trans ?_
    rw [c.apply_blank hc]
    rfl

/-- What is found is replaced. -/
theorem createOrReplace_of_some {σ α β : Type} {found : Request σ (Option α)}
    {create replace : Request σ β} {s s' : σ} {a : α} {b : β} (hfound : found s = .ok (some a) s)
    (hreplace : replace s = .ok b s') (kind : ResourceKind) (id : String) :
    createOrReplace found create replace kind id s = .ok ⟨kind, id, .updated⟩ s' := by
  rw [createOrReplace, Load.ask_bind_ok hfound]
  show (Load.ask replace >>= _) s = _
  rw [Load.ask_bind_ok hreplace]
  rfl

/-- What is not found is created. -/
theorem createOrReplace_of_none {σ α β : Type} {found : Request σ (Option α)}
    {create replace : Request σ β} {s s' : σ} {b : β} (hfound : found s = .ok none s)
    (hcreate : create s = .ok b s') (kind : ResourceKind) (id : String) :
    createOrReplace found create replace kind id s = .ok ⟨kind, id, .created⟩ s' := by
  rw [createOrReplace, Load.ask_bind_ok hfound]
  show (Load.ask create >>= _) s = _
  rw [Load.ask_bind_ok hcreate]
  rfl

/-- A push of a template to a store succeeds, whatever is there. -/
theorem run_store_template (s : Store) (t : Template) :
    (template t).run Store.service s = .ok ((template t).loaded s) ((template t).apply s) := by
  have hfinds := isKnown_template s t
  have happly : (template t).apply s = { s with
      templates := (⟨t.id, fun _ => t, t⟩ : Edit String Template).apply Template.id s.templates
      calls := s.calls ++ (template t).calls ((template t).action s) } := rfl
  cases ht : s.findTemplate? t.id with
  | some u =>
    have hknown : (template t).isKnown s = true := by rw [isKnown, ht]; rfl
    rw [happly, loaded, action_of_known hknown, Edit.apply_of_finds (hfinds ▸ hknown)]
    refine createOrReplace_of_some (a := u) (b := t) (congrArg (EStateM.Result.ok · s) ht) ?_ _ _
    show Store.updateTemplate t s = _
    simp only [Store.updateTemplate, ht, beq_iff_eq]
    rfl
  | none =>
    have hnew : (template t).isKnown s = false := by rw [isKnown, ht]; rfl
    rw [happly, loaded, action_of_new hnew, Edit.apply_of_not_finds (hfinds ▸ hnew)]
    refine createOrReplace_of_none (b := t) (congrArg (EStateM.Result.ok · s) ht) ?_ _ _
    show Store.createTemplate t s = _
    simp only [Store.createTemplate, ht]
    rfl

/-- A push of a handler to a store succeeds, whatever is there. -/
theorem run_store_handler (s : Store) (h : Handler) :
    (handler h).run Store.service s = .ok ((handler h).loaded s) ((handler h).apply s) := by
  have hfinds := isKnown_handler s h
  have happly : (handler h).apply s = { s with
      handlers := (⟨h.key, fun _ => h, h⟩ : Edit (String × String) Handler).apply Handler.key
        s.handlers
      calls := s.calls ++ (handler h).calls ((handler h).action s) } := rfl
  cases ht : s.findHandler? h.topic h.id with
  | some g =>
    have hknown : (handler h).isKnown s = true := by rw [isKnown, ht]; rfl
    rw [happly, loaded, action_of_known hknown, Edit.apply_of_finds (hfinds ▸ hknown)]
    refine createOrReplace_of_some (a := g) (b := h) (congrArg (EStateM.Result.ok · s) ht) ?_ _ _
    show Store.replaceHandler h s = _
    have htouch : ∀ g : Handler, (⟨h.key, fun _ => h, h⟩ : Edit (String × String) Handler).touch
        Handler.key g = if g.topic == h.topic && g.id == h.id then h else g := by
      intro g
      simp [Edit.touch, Handler.key]
    simp only [Store.replaceHandler, ht, List.map_congr_left fun g _ => htouch g]
    rfl
  | none =>
    have hnew : (handler h).isKnown s = false := by rw [isKnown, ht]; rfl
    rw [happly, loaded, action_of_new hnew, Edit.apply_of_not_finds (hfinds ▸ hnew)]
    refine createOrReplace_of_none (b := h) (congrArg (EStateM.Result.ok · s) ht) ?_ _ _
    show Store.createHandler h s = _
    simp only [Store.createHandler, ht]
    rfl

/-- A push to a store never fails. -/
theorem run_store (p : Push) (s : Store) :
    p.run Store.service s = .ok (p.loaded s) (p.apply s) := by
  cases p with
  | task id c hc => exact run_store_task s id c hc
  | template t => exact run_store_template s t
  | handler h => exact run_store_handler s h

end Push

end Tickscript
