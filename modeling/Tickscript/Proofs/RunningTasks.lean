import Tickscript.Proofs.LoadEffects
import Tickscript.Proofs.LoadSteps
import Tickscript.Service.Guarded

/-!
# Running tasks and refused requests

A task that is loaded again is changed, switched off and switched on, by three requests. The
service may turn any of them away, and then the file fails with nothing undone and nothing tried
again. Of all the ways in which this can happen, one alone can stop a running task: the third
request is turned away after the second went through. A later file with the name of the task may
switch it on; where none does, the report tells why the task is off (`Load.run_keeps_running`).
-/

namespace Tickscript

/-! ## What requests keep -/

namespace Load

variable {σ α β : Type} {P : σ → Prop}

/-- Whatever comes of it, `P` holds of the state afterwards if it held before. -/
def Keeps {ε : Type} (P : σ → Prop) (m : EStateM ε σ α) : Prop := ∀ s, P s → P (stateOf (m s))

/-- What a request keeps and whatever follows it keeps, both together keep. -/
theorem Keeps.ask_bind {r : Request σ α} {f : α → Load σ β} (h : Keeps P r)
    (hf : ∀ a, Keeps P (f a)) : Keeps P (ask r >>= f) := by
  intro s hs
  have hafter := h s hs
  show P (stateOf (EStateM.bind (ask r) f s))
  cases hr : r s with
  | ok a s' =>
    rw [hr] at hafter
    simp only [EStateM.bind, ask, hr]
    exact hf a s' hafter
  | error e s' =>
    rw [hr] at hafter
    simp only [EStateM.bind, ask, hr]
    exact hafter

theorem Keeps.pure (P : σ → Prop) (a : α) : Keeps P (pure a : Load σ α) := fun _ hs => hs

/-- Creating or replacing keeps what the three requests keep. -/
theorem Keeps.createOrReplace {found : Request σ (Option α)} {create replace : Request σ β}
    (hfound : Keeps P found) (hcreate : Keeps P create) (hreplace : Keeps P replace)
    (kind : ResourceKind) (id : String) :
    Keeps P (Push.createOrReplace found create replace kind id) := by
  refine .ask_bind hfound fun a => ?_
  cases a with
  | none => exact .ask_bind hcreate fun _ => .pure P _
  | some a => exact .ask_bind hreplace fun _ => .pure P _

/-- A request that is turned away ends the push. -/
theorem ask_bind_error {r : Request σ α} {f : α → Load σ β} {s s' : σ} {e : ServiceError}
    (h : r s = .error e s') : (ask r >>= f) s = .error (.service e) s' := by
  show EStateM.bind (ask r) f s = _
  simp only [EStateM.bind, ask, h]

/-- How far a push of a task comes with its requests. -/
inductive TaskRequests (svc : Service σ) (t : Task) (c : TaskChange) (s : σ) :
    EStateM.Result LoadError σ Loaded → Prop where
  | lookupFails {e : ServiceError} {s' : σ} (h : svc.task t.id s = .error e s') :
      TaskRequests svc t c s (.error (.service e) s')
  | createFails {s₁ s' : σ} {e : ServiceError} (h : svc.task t.id s = .ok none s₁)
      (hcreate : svc.createTask t s₁ = .error e s') :
      TaskRequests svc t c s (.error (.service e) s')
  | created {s₁ s' : σ} {u : Task} (h : svc.task t.id s = .ok none s₁)
      (hcreate : svc.createTask t s₁ = .ok u s') :
      TaskRequests svc t c s (.ok ⟨.task, t.id, .created⟩ s')
  | changeFails {s₁ s' : σ} {u : Task} {e : ServiceError} (h : svc.task t.id s = .ok (some u) s₁)
      (hchange : svc.updateTask t.id c s₁ = .error e s') :
      TaskRequests svc t c s (.error (.service e) s')
  | offFails {s₁ s₂ s' : σ} {u u₁ : Task} {e : ServiceError}
      (h : svc.task t.id s = .ok (some u) s₁) (hchange : svc.updateTask t.id c s₁ = .ok u₁ s₂)
      (hoff : svc.updateTask t.id (.toStatus .disabled) s₂ = .error e s') :
      TaskRequests svc t c s (.error (.service e) s')
  | onFails {s₁ s₂ s₃ s' : σ} {u u₁ u₂ : Task} {e : ServiceError}
      (h : svc.task t.id s = .ok (some u) s₁) (hchange : svc.updateTask t.id c s₁ = .ok u₁ s₂)
      (hoff : svc.updateTask t.id (.toStatus .disabled) s₂ = .ok u₂ s₃)
      (hon : svc.updateTask t.id (.toStatus .enabled) s₃ = .error e s') :
      TaskRequests svc t c s (.error (.service e) s')
  | updated {s₁ s₂ s₃ s' : σ} {u u₁ u₂ u₃ : Task} (h : svc.task t.id s = .ok (some u) s₁)
      (hchange : svc.updateTask t.id c s₁ = .ok u₁ s₂)
      (hoff : svc.updateTask t.id (.toStatus .disabled) s₂ = .ok u₂ s₃)
      (hon : svc.updateTask t.id (.toStatus .enabled) s₃ = .ok u₃ s') :
      TaskRequests svc t c s (.ok ⟨.task, t.id, .updated⟩ s')

/-- A push of a task comes as far as its requests succeed. -/
theorem pushTask_requests (svc : Service σ) (t : Task) (c : TaskChange) (s : σ) :
    TaskRequests svc t c s (pushTask svc t c s) := by
  unfold pushTask
  -- One case for every request, in their order, until one fails.
  cases h : svc.task t.id s with
  | error e s' =>
    rw [ask_bind_error h]
    exact .lookupFails h
  | ok found s₁ =>
    rw [ask_bind_ok h]
    cases found with
    | none =>
      show TaskRequests svc t c s ((ask (svc.createTask t) >>= _) s₁)
      cases hcreate : svc.createTask t s₁ with
      | error e s' =>
        rw [ask_bind_error hcreate]
        exact .createFails h hcreate
      | ok u s' =>
        rw [ask_bind_ok hcreate]
        exact .created h hcreate
    | some u =>
      show TaskRequests svc t c s ((ask (svc.updateTask t.id c) >>= _) s₁)
      cases hchange : svc.updateTask t.id c s₁ with
      | error e s' =>
        rw [ask_bind_error hchange]
        exact .changeFails h hchange
      | ok u₁ s₂ =>
        rw [ask_bind_ok hchange]
        cases hoff : svc.updateTask t.id (.toStatus .disabled) s₂ with
        | error e s' =>
          rw [ask_bind_error hoff]
          exact .offFails h hchange hoff
        | ok u₂ s₃ =>
          rw [ask_bind_ok hoff]
          cases hon : svc.updateTask t.id (.toStatus .enabled) s₃ with
          | error e s' =>
            rw [ask_bind_error hon]
            exact .onFails h hchange hoff hon
          | ok u₃ s' =>
            rw [ask_bind_ok hon]
            exact .updated h hchange hoff hon

end Load

/-! ## Requests behind a guard -/

namespace Guarded

variable {σ α : Type} {guard : Guard} {op : Operation} {r : Request σ α} {g : Guarded σ}

/-- A request that goes through was let through by the guard and answered. -/
theorem of_pass_eq_ok {a : α} {g' : Guarded σ} (h : pass guard op r g = .ok a g') :
    guard g.asked op = none ∧ ∃ t, r g.inner = .ok a t ∧ g' = ⟨t, op :: g.asked⟩ := by
  simp only [pass] at h
  cases hguard : guard g.asked op with
  | some reason =>
    rw [hguard] at h
    cases h
  | none =>
    rw [hguard] at h
    cases hr : r g.inner with
    | error e t =>
      rw [hr] at h
      cases h
    | ok b t =>
      rw [hr] at h
      cases h
      exact ⟨rfl, t, rfl, rfl⟩

/-- A request that fails was turned away by the guard, or let through and then failed. -/
theorem of_pass_eq_error {e : ServiceError} {g' : Guarded σ} (h : pass guard op r g = .error e g') :
    (∃ reason, guard g.asked op = some reason ∧ e = .refused reason ∧
      g' = ⟨g.inner, op :: g.asked⟩) ∨
    ∃ t, r g.inner = .error e t ∧ g' = ⟨t, op :: g.asked⟩ := by
  simp only [pass] at h
  cases hguard : guard g.asked op with
  | some reason =>
    rw [hguard] at h
    cases h
    exact .inl ⟨reason, rfl, rfl, rfl⟩
  | none =>
    rw [hguard] at h
    cases hr : r g.inner with
    | ok b t =>
      rw [hr] at h
      cases h
    | error e' t =>
      rw [hr] at h
      cases h
      exact .inr ⟨t, rfl, rfl⟩

/-- Nothing asked for is forgotten, and what a request keeps behind the guard it keeps. -/
theorem keeps_pass {P : σ → Prop} (hr : Load.Keeps P r) (before : List Operation) :
    Load.Keeps (fun g => before <:+ g.asked ∧ P g.inner) (pass guard op r) := by
  rintro ⟨s, asked⟩ ⟨hasked, hs⟩
  have hlonger : before <:+ op :: asked := hasked.trans (List.suffix_cons op asked)
  have hafter := hr s hs
  simp only [pass]
  cases guard asked op with
  | some reason => exact ⟨hlonger, hs⟩
  | none =>
    cases hrun : r s with
    | ok | error =>
      rw [hrun] at hafter
      exact ⟨hlonger, hafter⟩

end Guarded

/-- The guard lets a task be looked up, changed and switched off, and turns away the request to
switch it on again. -/
structure Guard.LeavesOff (guard : Guard) (asked : List Operation) (reason : String) : Prop where
  lookup : guard asked .task = none
  change : guard (.task :: asked) .updateTask = none
  off : guard (.updateTask :: .task :: asked) .updateTask = none
  on : guard (.updateTask :: .updateTask :: .task :: asked) .updateTask = some reason

/-! ## The status of a task -/

namespace Store

/-- Whether the task with an id runs, if there is one. -/
def statusOf? (s : Store) (id : String) : Option Status := (s.findTask? id).map (·.status)

/-- A change sets the status of its own task, if it sets one. -/
theorem statusOf?_withChange (s : Store) (id x : String) (c : TaskChange) :
    (s.withChange id c).statusOf? x =
      (s.statusOf? x).map fun status => if x = id then c.status.getD status else status := by
  unfold statusOf?
  rw [findTask?_eq, findTask?_eq, withChange, List.find?_map]
  -- A change keeps the ids, so the same task is found.
  have hid : ((fun t : Task => decide (t.id = x)) ∘ fun t => if t.id = id then c.apply t else t) =
      fun t => decide (t.id = x) := by
    funext t
    by_cases ht : t.id = id
    · simp [ht, TaskChange.apply]
    · simp [ht]
  rw [hid]
  cases hfound : s.tasks.find? fun t => decide (t.id = x) with
  | none => rfl
  | some t =>
    have ht : t.id = x := by simpa using List.find?_some hfound
    subst ht
    by_cases hx : t.id = id
    · simp [hx, TaskChange.apply]
    · simp [hx]

/-- A change of another task leaves the status alone. -/
theorem statusOf?_of_ne {id x : String} (h : x ≠ id) (s : Store) (c : TaskChange) :
    (s.withChange id c).statusOf? x = s.statusOf? x := by
  rw [statusOf?_withChange]
  simp [h]

/-- A change that does not mention the status leaves it alone. -/
theorem statusOf?_of_none {c : TaskChange} (hc : c.status = none) (s : Store) (id x : String) :
    (s.withChange id c).statusOf? x = s.statusOf? x := by
  rw [statusOf?_withChange, hc]
  simp

/-- A task that is there has the status that was set. -/
theorem statusOf?_toStatus {s : Store} {x : String} {status : Status}
    (h : s.statusOf? x = some status) (new : Status) :
    (s.withChange x (.toStatus new)).statusOf? x = some new := by
  rw [statusOf?_withChange, h]
  simp [TaskChange.toStatus]

/-- Another task that is added changes nothing about a task that is there. -/
theorem statusOf?_append {s : Store} {x : String} {status : Status}
    (h : s.statusOf? x = some status) (t : Task) (calls : List StoreCall) :
    statusOf? { s with tasks := s.tasks ++ [t], calls := calls } x = some status := by
  obtain ⟨u, hu, hstatus⟩ := Option.map_eq_some_iff.1 h
  rw [statusOf?, findTask?_eq, List.find?_append, ← findTask?_eq, hu, ← hstatus]
  rfl

end Store

/-! ## Pushes of templates and handlers -/

namespace Store

/-- The tasks are those given. -/
def HasTasks (ts : List Task) (s : Store) : Prop := s.tasks = ts

variable (ts : List Task)

/-- Creating a template leaves the tasks alone. -/
theorem keeps_createTemplate (t : Template) : Load.Keeps (HasTasks ts) (createTemplate t) := by
  intro s hs
  unfold createTemplate
  cases s.findTemplate? t.id <;> exact hs

theorem keeps_updateTemplate (t : Template) : Load.Keeps (HasTasks ts) (updateTemplate t) := by
  intro s hs
  unfold updateTemplate
  cases s.findTemplate? t.id <;> exact hs

/-- Creating a handler leaves the tasks alone. -/
theorem keeps_createHandler (h : Handler) : Load.Keeps (HasTasks ts) (createHandler h) := by
  intro s hs
  unfold createHandler
  cases s.findHandler? h.topic h.id <;> exact hs

theorem keeps_replaceHandler (h : Handler) : Load.Keeps (HasTasks ts) (replaceHandler h) := by
  intro s hs
  unfold replaceHandler
  cases s.findHandler? h.topic h.id <;> exact hs

end Store

namespace Push

/-- What one push may make of the status of the task `x`: nothing, or the task runs, or it was
switched off for the change and the request to switch it on again was turned away. -/
inductive Outcome (guard : Guard) (x : String) (p : Push) (g : Guarded Store) :
    EStateM.Result LoadError (Guarded Store) Loaded → Prop where
  | kept {res : EStateM.Result LoadError (Guarded Store) Loaded}
      (hasked : g.asked <:+ (Load.stateOf res).asked)
      (hstatus : (Load.stateOf res).inner.statusOf? x = g.inner.statusOf? x) :
      Outcome guard x p g res
  | runs {res : EStateM.Result LoadError (Guarded Store) Loaded}
      (hasked : g.asked <:+ (Load.stateOf res).asked)
      (hstatus : (Load.stateOf res).inner.statusOf? x = some .enabled) : Outcome guard x p g res
  | leftOff {s : Store} {reason : String} (hkind : p.kind = .task) (hid : p.id = x)
      (hguard : guard.LeavesOff g.asked reason) (hstatus : s.statusOf? x = some .disabled) :
      Outcome guard x p g (.error (.service (.refused reason))
        ⟨s, .updateTask :: .updateTask :: .updateTask :: .task :: g.asked⟩)

variable {guard : Guard} {x : String} {g : Guarded Store}

/-- What leaves the tasks of a store alone leaves their status alone. -/
theorem Outcome.of_keeps {p : Push} {m : Load (Guarded Store) Loaded}
    (hm : ∀ before ts, Load.Keeps (fun g => before <:+ g.asked ∧ g.inner.HasTasks ts) m)
    (g : Guarded Store) : Outcome guard x p g (m g) := by
  obtain ⟨hasked, htasks⟩ := hm g.asked g.inner.tasks g ⟨List.suffix_refl _, rfl⟩
  refine .kept hasked ?_
  rw [Store.statusOf?, Store.findTask?_eq, htasks, ← Store.findTask?_eq]
  rfl

/-- A push of a template leaves every status as it is. -/
theorem outcome_template (t : Template) (g : Guarded Store) :
    Outcome guard x (template t) g ((template t).run (Guarded.service guard Store.service) g) := by
  refine .of_keeps (fun before ts => ?_) g
  have hfound : Load.Keeps (Store.HasTasks ts) (Store.service.template t.id) := fun _ hs => hs
  exact .createOrReplace (Guarded.keeps_pass hfound before)
    (Guarded.keeps_pass (Store.keeps_createTemplate ts t) before)
    (Guarded.keeps_pass (Store.keeps_updateTemplate ts t) before) _ _

/-- A push of a handler leaves every status as it is. -/
theorem outcome_handler (h : Handler) (g : Guarded Store) :
    Outcome guard x (handler h) g ((handler h).run (Guarded.service guard Store.service) g) := by
  refine .of_keeps (fun before ts => ?_) g
  have hfound : Load.Keeps (Store.HasTasks ts) (Store.service.handler h.topic h.id) :=
    fun _ hs => hs
  exact .createOrReplace (Guarded.keeps_pass hfound before)
    (Guarded.keeps_pass (Store.keeps_createHandler ts h) before)
    (Guarded.keeps_pass (Store.keeps_replaceHandler ts h) before) _ _

/-! ## Pushes of tasks -/

/-- A lookup behind a guard changes nothing there. -/
theorem of_task_eq_ok {id : String} {found : Option Task} {g' : Guarded Store}
    (h : (Guarded.service guard Store.service).task id g = .ok found g') :
    guard g.asked .task = none ∧ found = g.inner.findTask? id ∧
      g' = ⟨g.inner, .task :: g.asked⟩ := by
  have h : Guarded.pass guard .task (Store.service.task id) g = .ok found g' := h
  obtain ⟨hguard, s, hs, rfl⟩ := Guarded.of_pass_eq_ok h
  cases hs
  exact ⟨hguard, rfl, rfl⟩

/-- A lookup that fails leaves the store as it was. -/
theorem of_task_eq_error {id : String} {e : ServiceError} {g' : Guarded Store}
    (h : (Guarded.service guard Store.service).task id g = .error e g') :
    g' = ⟨g.inner, .task :: g.asked⟩ := by
  have h : Guarded.pass guard .task (Store.service.task id) g = .error e g' := h
  rcases Guarded.of_pass_eq_error h with ⟨-, -, -, hg⟩ | ⟨s, hs, -⟩
  · exact hg
  · cases hs

/-- A task that is created behind a guard is added to the store. -/
theorem of_createTask_eq_ok {t u : Task} {g' : Guarded Store}
    (h : (Guarded.service guard Store.service).createTask t g = .ok u g') :
    g' = ⟨{ g.inner with
        tasks := g.inner.tasks ++ [t]
        calls := g.inner.calls ++ [.createTask t.id] }, .createTask :: g.asked⟩ := by
  have h : Guarded.pass guard .createTask (Store.createTask t) g = .ok u g' := h
  obtain ⟨-, s, hs, rfl⟩ := Guarded.of_pass_eq_ok h
  unfold Store.createTask at hs
  cases hfound : g.inner.findTask? t.id with
  | some v =>
    rw [hfound] at hs
    cases hs
  | none =>
    rw [hfound] at hs
    cases hs
    rfl

/-- A task that is not created leaves the store as it was. -/
theorem of_createTask_eq_error {t : Task} {e : ServiceError} {g' : Guarded Store}
    (h : (Guarded.service guard Store.service).createTask t g = .error e g') :
    g' = ⟨g.inner, .createTask :: g.asked⟩ := by
  have h : Guarded.pass guard .createTask (Store.createTask t) g = .error e g' := h
  rcases Guarded.of_pass_eq_error h with ⟨-, -, -, hg⟩ | ⟨s, hs, rfl⟩
  · exact hg
  · unfold Store.createTask at hs
    cases hfound : g.inner.findTask? t.id with
    | none =>
      rw [hfound] at hs
      cases hs
    | some v =>
      rw [hfound] at hs
      cases hs
      rfl

/-- A task that is changed behind a guard is there, and changed. -/
theorem of_updateTask_eq_ok {id : String} {c : TaskChange} {t : Task} {g' : Guarded Store}
    (h : (Guarded.service guard Store.service).updateTask id c g = .ok t g') :
    guard g.asked .updateTask = none ∧ (g.inner.findTask? id).isSome = true ∧
      g' = ⟨g.inner.withChange id c, .updateTask :: g.asked⟩ := by
  have h : Guarded.pass guard .updateTask (Store.updateTask id c) g = .ok t g' := h
  obtain ⟨hguard, s, hs, rfl⟩ := Guarded.of_pass_eq_ok h
  cases hfound : g.inner.findTask? id with
  | none =>
    simp only [Store.updateTask, hfound] at hs
    cases hs
  | some u =>
    have hknown : (g.inner.findTask? id).isSome = true := by rw [hfound]; rfl
    obtain ⟨v, hv⟩ := Store.updateTask_of_known hknown c
    rw [hv] at hs
    cases hs
    exact ⟨hguard, rfl, rfl⟩

/-- A task that is there can be changed unless the guard is against it. -/
theorem of_updateTask_eq_error {id : String} {c : TaskChange} {e : ServiceError}
    {g' : Guarded Store} (hknown : (g.inner.findTask? id).isSome = true)
    (h : (Guarded.service guard Store.service).updateTask id c g = .error e g') :
    ∃ reason, guard g.asked .updateTask = some reason ∧ e = .refused reason ∧
      g' = ⟨g.inner, .updateTask :: g.asked⟩ := by
  have h : Guarded.pass guard .updateTask (Store.updateTask id c) g = .error e g' := h
  rcases Guarded.of_pass_eq_error h with hrefused | ⟨s, hs, -⟩
  · exact hrefused
  · obtain ⟨t, ht⟩ := Store.updateTask_of_known hknown c
    rw [ht] at hs
    cases hs

/-- The requests of a push of a task, one by one; each may be turned away. -/
theorem outcome_task {status : Status} (hx : g.inner.statusOf? x = some status) (id : String)
    (c : TaskChange) (hc : c.status = none) :
    Outcome guard x (task id c hc) g
      ((task id c hc).run (Guarded.service guard Store.service) g) := by
  have hreq :=
    Load.pushTask_requests (Guarded.service guard Store.service) (c.apply (.blank id)) c g
  rw [run]
  generalize Load.pushTask _ (c.apply (.blank id)) c g = res at hreq
  cases hreq with
  | lookupFails h =>
    obtain rfl := of_task_eq_error h
    exact .kept (List.suffix_append [_] _) rfl
  | createFails h hcreate =>
    obtain ⟨-, -, rfl⟩ := of_task_eq_ok h
    obtain rfl := of_createTask_eq_error hcreate
    exact .kept (List.suffix_append [_, _] _) rfl
  | created h hcreate =>
    obtain ⟨-, -, rfl⟩ := of_task_eq_ok h
    obtain rfl := of_createTask_eq_ok hcreate
    exact .kept (List.suffix_append [_, _] _) ((Store.statusOf?_append hx _ _).trans hx.symm)
  | changeFails h hchange =>
    obtain ⟨-, hfound, rfl⟩ := of_task_eq_ok h
    obtain ⟨-, -, -, rfl⟩ := of_updateTask_eq_error (by rw [← hfound]; rfl) hchange
    exact .kept (List.suffix_append [_, _] _) rfl
  | offFails h hchange hoff =>
    obtain ⟨-, -, rfl⟩ := of_task_eq_ok h
    obtain ⟨-, hknown, rfl⟩ := of_updateTask_eq_ok hchange
    obtain ⟨-, -, -, rfl⟩ :=
      of_updateTask_eq_error (Store.isSome_findTask?_withChange hknown c) hoff
    exact .kept (List.suffix_append [_, _, _] _) (Store.statusOf?_of_none hc _ _ _)
  | onFails h hchange hoff hon =>
    obtain ⟨hlookup, -, rfl⟩ := of_task_eq_ok h
    obtain ⟨hguard₁, hknown, rfl⟩ := of_updateTask_eq_ok hchange
    obtain ⟨hguard₂, hknown₂, rfl⟩ := of_updateTask_eq_ok hoff
    obtain ⟨reason, hguard₃, rfl, rfl⟩ :=
      of_updateTask_eq_error (Store.isSome_findTask?_withChange hknown₂ _) hon
    -- The one way to leave the task off: it was switched off, and switching it on is refused.
    by_cases hid : x = id
    · subst hid
      have hchanged := (Store.statusOf?_of_none hc g.inner x x).trans hx
      exact .leftOff rfl rfl ⟨hlookup, hguard₁, hguard₂, hguard₃⟩
        (Store.statusOf?_toStatus hchanged .disabled)
    · exact .kept (List.suffix_append [_, _, _, _] _)
        ((Store.statusOf?_of_ne hid _ _).trans (Store.statusOf?_of_none hc _ _ _))
  | updated h hchange hoff hon =>
    obtain ⟨-, -, rfl⟩ := of_task_eq_ok h
    obtain ⟨-, -, rfl⟩ := of_updateTask_eq_ok hchange
    obtain ⟨-, -, rfl⟩ := of_updateTask_eq_ok hoff
    obtain ⟨-, -, rfl⟩ := of_updateTask_eq_ok hon
    by_cases hid : x = id
    · subst hid
      have hchanged := (Store.statusOf?_of_none hc g.inner x x).trans hx
      exact .runs (List.suffix_append [_, _, _, _] _)
        (Store.statusOf?_toStatus (Store.statusOf?_toStatus hchanged .disabled) .enabled)
    · exact .kept (List.suffix_append [_, _, _, _] _)
        ((Store.statusOf?_of_ne hid _ _).trans
          ((Store.statusOf?_of_ne hid _ _).trans (Store.statusOf?_of_none hc _ _ _)))

/-- Whatever is pushed, the task that runs or not has one of these outcomes. -/
theorem outcome {status : Status} (hx : g.inner.statusOf? x = some status) (p : Push) :
    Outcome guard x p g (p.run (Guarded.service guard Store.service) g) := by
  cases p with
  | task id c hc => exact outcome_task hx id c hc
  | template t => exact outcome_template t g
  | handler h => exact outcome_handler h g

end Push

/-! ## Whole loads -/

namespace Load

/-- A script or a document with variables that has the name of the task `x` is reported as failed
because the request to switch the task on was turned away, at some point after `before` and up to
`now`. -/
inductive StoppedBy (guard : Guard) (fs : FileSystem) (c : LoadConfig) (x : String)
    (before now : List Operation) (failed : List (String × LoadError)) : Prop where
  | intro {asked : List Operation} {path reason : String} (hbefore : before <:+ asked)
      (hnow : .updateTask :: .updateTask :: .updateTask :: .task :: asked <:+ now)
      (hguard : guard.LeavesOff asked reason) (hfile : TaskFile fs c path)
      (hpath : Path.stem path = x) (hfailed : (path, .service (.refused reason)) ∈ failed) :
      StoppedBy guard fs c x before now failed

/-- The task `x` runs, or it does not and a request to switch it on was turned away. -/
structure RunsOrStopped (guard : Guard) (fs : FileSystem) (c : LoadConfig) (x : String)
    (before : List Operation) (r : LoadReport) (g : Guarded Store) : Prop where
  asked : before <:+ g.asked
  status : g.inner.statusOf? x = some .enabled ∨
    g.inner.statusOf? x = some .disabled ∧ StoppedBy guard fs c x before g.asked r.failed

variable {guard : Guard} {fs : FileSystem} {c : LoadConfig} {x : String} {before : List Operation}

/-- What has stopped a task is still so later in the run. -/
theorem StoppedBy.later {now now' : List Operation} {failed failed' : List (String × LoadError)}
    (h : StoppedBy guard fs c x before now failed) (hnow : now <:+ now')
    (hfailed : failed ⊆ failed') : StoppedBy guard fs c x before now' failed' := by
  obtain ⟨hbefore, hsuffix, hguard, hfile, hpath, hmem⟩ := h
  exact ⟨hbefore, hsuffix.trans hnow, hguard, hfile, hpath, hfailed hmem⟩

/-- The task is there, whether it runs or not. -/
theorem RunsOrStopped.statusOf? {r : LoadReport} {g : Guarded Store}
    (h : RunsOrStopped guard fs c x before r g) : ∃ status, g.inner.statusOf? x = some status :=
  h.status.elim (fun h => ⟨_, h⟩) fun h => ⟨_, h.1⟩

/-- One file. -/
theorem RunsOrStopped.step {r : LoadReport} {g : Guarded Store}
    (h : RunsOrStopped guard fs c x before r g) {i : Item} (hi : i.IsNamed fs c) :
    RunsOrStopped guard fs c x before
      (r ++ reportOn i.path (push (Guarded.service guard Store.service) i.content g))
      (stateOf (push (Guarded.service guard Store.service) i.content g)) := by
  have hmore : ∀ r', r.failed ⊆ (r ++ r').failed := fun r' => List.subset_append_left _ _
  cases hcontent : i.content with
  | error e =>
    refine ⟨h.asked, h.status.imp_right (.imp_right fun hleft => ?_)⟩
    exact .later hleft (List.suffix_refl _) (hmore _)
  | ok p =>
    obtain ⟨status, hstatus⟩ := h.statusOf?
    have hout : Push.Outcome guard x p g (push _ (.ok p) g) := Push.outcome hstatus p
    generalize push _ (.ok p) g = res at hout ⊢
    cases hout with
    | kept hasked hsame =>
      refine ⟨h.asked.trans hasked, ?_⟩
      rw [hsame]
      exact h.status.imp_right (.imp_right (.later · hasked (hmore _)))
    | runs hasked hruns => exact ⟨h.asked.trans hasked, .inl hruns⟩
    | leftOff hkind hid hguard hoff =>
      obtain ⟨hfile, hname⟩ := hi p hcontent hkind
      refine ⟨h.asked.trans (List.suffix_append [_, _, _, _] _), .inr ⟨hoff, ?_⟩⟩
      exact ⟨h.asked, List.suffix_refl _, hguard, hfile, hname.symm.trans hid,
        List.mem_append_right _ (List.mem_singleton_self _)⟩

/-- What holds before some files holds behind them. -/
theorem RunsOrStopped.steps {r r' : LoadReport} {g g' : Guarded Store}
    (h : RunsOrStopped guard fs c x before r g)
    (hsteps : Steps (Guarded.service guard Store.service) fs c r g r' g') :
    RunsOrStopped guard fs c x before r' g' := by
  induction hsteps with
  | refl => exact h
  | file _ i hi ih => exact ih.step hi

/-- Whatever requests the service turns away, and whatever is loaded: a task that runs before a
load runs after it, or else it is switched off. In that case some script or document with variables
that has the name of the task is reported as failed: its lookup, its change and the request to
switch the task off went through, and the request to switch it on again was turned away. The
converse does not hold, since a later file of that name may switch the task on. -/
theorem run_keeps_running [Libraries] {g : Guarded Store}
    (hx : g.inner.statusOf? x = some .enabled) :
    (∀ r g', run (Guarded.service guard Store.service) fs c g = .ok r g' →
      g'.inner.statusOf? x = some .enabled ∨
        g'.inner.statusOf? x = some .disabled ∧ StoppedBy guard fs c x g.asked g'.asked r.failed) ∧
    ∀ e g', run (Guarded.service guard Store.service) fs c g = .error e g' →
      g'.inner.statusOf? x = some .enabled ∨
        g'.inner.statusOf? x = some .disabled ∧
          ∃ failed, StoppedBy guard fs c x g.asked g'.asked failed := by
  obtain ⟨r, g', hsteps, hrun⟩ := run_steps (Guarded.service guard Store.service) fs c g
  have hstart : RunsOrStopped guard fs c x g.asked {} g := ⟨List.suffix_refl _, .inl hx⟩
  have hend := (hstart.steps hsteps).status
  rcases hrun with hrun | ⟨e, hrun⟩
  · refine ⟨fun r' g'' h => ?_, fun e g'' h => ?_⟩ <;> rw [hrun] at h <;> cases h
    exact hend
  · refine ⟨fun r' g'' h => ?_, fun e g'' h => ?_⟩ <;> rw [hrun] at h <;> cases h
    exact hend.imp_right (.imp_right (⟨_, ·⟩))

section Sample

attribute [local instance] libraries

/-- Turns the third change of a task away. -/
def refuseThirdUpdate : Guard := fun asked op =>
  if op = .updateTask ∧ asked.count .updateTask = 2 then some "not now" else none

/-- Two tasks that run. -/
def runningStore : Guarded Store := ⟨{ tasks := [.blank "a", .blank "b"] }, []⟩

theorem run_runningStore : ∃ r g',
    run (Guarded.service refuseThirdUpdate Store.service) sampleFiles ⟨true, "/d"⟩ runningStore =
      .ok r g' ∧ g'.inner.statusOf? "a" = some .disabled := by
  have hrun : (match run (Guarded.service refuseThirdUpdate Store.service) sampleFiles ⟨true, "/d"⟩
        runningStore with
      | .ok _ g' => decide (g'.inner.statusOf? "a" = some .disabled)
      | .error _ _ => false) = true := by
    decide +kernel
  split at hrun
  · next r g' h => exact ⟨r, g', h, of_decide_eq_true hrun⟩
  · cases hrun

/-- The task that the refusal stops is reported. -/
theorem run_keeps_running_sample : ∃ r g',
    run (Guarded.service refuseThirdUpdate Store.service) sampleFiles ⟨true, "/d"⟩ runningStore =
      .ok r g' ∧
    g'.inner.statusOf? "a" = some .disabled ∧
    StoppedBy refuseThirdUpdate sampleFiles ⟨true, "/d"⟩ "a" [] g'.asked r.failed := by
  obtain ⟨r, g', hrun, hoff⟩ := run_runningStore
  have ha := (run_keeps_running (x := "a") (by decide)).1 r g' hrun
  rw [hoff] at ha
  exact ⟨r, g', hrun, hoff, (ha.resolve_left (by decide)).2⟩

/-- A load can stop a task that runs. -/
theorem run_stops_running : ¬ ∀ guard fs c x (g g' : Guarded Store) r,
    g.inner.statusOf? x = some .enabled →
    run (Guarded.service guard Store.service) fs c g = .ok r g' →
    g'.inner.statusOf? x = some .enabled := by
  intro hkeeps
  obtain ⟨r, g', hrun, hoff⟩ := run_runningStore
  have hon := hkeeps _ _ _ "a" _ _ _ (by decide) hrun
  rw [hoff] at hon
  cases hon

end Sample

end Load

end Tickscript
