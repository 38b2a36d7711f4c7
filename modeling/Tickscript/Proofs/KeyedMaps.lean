import Tickscript.Proofs.Pushes

/-!
# The store as maps

`Store` keeps its resources in lists and finds one by the id that is on it, so what it finds by an
id has that id. A service that keeps maps (`Maps`) puts each resource under a key, and then it takes
an argument that the key and the id on the resource are the same: it is so because every operation
takes the key from the resource that it puts there, and no change touches an id.

The argument goes by `Maps.Matches`: under each key of the maps lies what the store finds by it. The
nine operations keep this and give equal answers (`Maps.simulates`). A load only asks, so over two
services like these it comes to the same end (`Load.agree_run`), and what is shown of loads into a
store holds for the maps (`Maps.agree_load`). What a map has under a key carries the key wherever
the maps match a store (`Maps.Matches.keyed`).
-/

namespace Tickscript

/-! ## Services that cannot be told apart -/

section Agreement

variable {σ τ ε α β : Type} (R : σ → τ → Prop)

/-- Two computations have come to the same end: both with one answer, or both with one error, and in
related states. -/
inductive SameEnd : EStateM.Result ε σ α → EStateM.Result ε τ α → Prop where
  | ok (a : α) {s : σ} {t : τ} (h : R s t) : SameEnd (.ok a s) (.ok a t)
  | error (e : ε) {s : σ} {t : τ} (h : R s t) : SameEnd (.error e s) (.error e t)

/-- From related states the two computations come to the same end. -/
def Agree (m : EStateM ε σ α) (m' : EStateM ε τ α) : Prop := ∀ s t, R s t → SameEnd R (m s) (m' t)

/-- Each operation of one service agrees with that of the other. -/
structure Service.Simulates (svc : Service σ) (svc' : Service τ) : Prop where
  task : ∀ id, Agree R (svc.task id) (svc'.task id)
  createTask : ∀ t, Agree R (svc.createTask t) (svc'.createTask t)
  updateTask : ∀ id c, Agree R (svc.updateTask id c) (svc'.updateTask id c)
  template : ∀ id, Agree R (svc.template id) (svc'.template id)
  createTemplate : ∀ t, Agree R (svc.createTemplate t) (svc'.createTemplate t)
  updateTemplate : ∀ t, Agree R (svc.updateTemplate t) (svc'.updateTemplate t)
  handler : ∀ topic id, Agree R (svc.handler topic id) (svc'.handler topic id)
  createHandler : ∀ h, Agree R (svc.createHandler h) (svc'.createHandler h)
  replaceHandler : ∀ h, Agree R (svc.replaceHandler h) (svc'.replaceHandler h)

namespace Agree

variable {R} {m : EStateM ε σ α} {m' : EStateM ε τ α} {f : α → EStateM ε σ β}
  {f' : α → EStateM ε τ β}

/-- Values that are given without a request agree. -/
theorem pure (a : α) : Agree R (pure a : EStateM ε σ α) (pure a : EStateM ε τ α) :=
  fun _ _ hst => .ok a hst

/-- Computations that agree, followed by computations that agree on every value, agree. -/
theorem bind (h : Agree R m m') (hf : ∀ a, Agree R (f a) (f' a)) :
    Agree R (m >>= f) (m' >>= f') := by
  intro s t hst
  have hfirst := h s t hst
  show SameEnd R (EStateM.bind m f s) (EStateM.bind m' f' t)
  unfold EStateM.bind
  cases hm : m s with
  | ok a s' =>
    cases hm' : m' t with
    | ok a' t' =>
      rw [hm, hm'] at hfirst
      cases hfirst with
      | ok _ hst' => exact hf a s' t' hst'
    | error e t' =>
      rw [hm, hm'] at hfirst
      cases hfirst
  | error e s' =>
    cases hm' : m' t with
    | ok a t' =>
      rw [hm, hm'] at hfirst
      cases hfirst
    | error e' t' =>
      rw [hm, hm'] at hfirst
      cases hfirst with
      | error _ hst' => exact .error e hst'

theorem map (g : α → β) (h : Agree R m m') : Agree R (g <$> m) (g <$> m') := by
  rw [map_eq_pure_bind, map_eq_pure_bind]
  exact h.bind fun _ => .pure _

end Agree

end Agreement

/-! ## Loads -/

namespace Load

variable {σ τ α β : Type} {R : σ → τ → Prop} {svc : Service σ} {svc' : Service τ}

/-- Asking a service agrees if the requests do; an error becomes one of the load in both. -/
theorem agree_ask {r : Request σ α} {r' : Request τ α} (h : Agree R r r') :
    Agree R (ask r) (ask r') := by
  intro s t hst
  have hrequest := h s t hst
  unfold ask
  generalize r s = x at hrequest
  generalize r' t = y at hrequest
  cases hrequest with
  | ok a hst' => exact .ok a hst'
  | error e hst' => exact .error _ hst'

/-- Whether there is a value does not depend on the state. -/
theorem agree_ofExcept (x : Except LoadError α) :
    Agree R (ofExcept x : Load σ α) (ofExcept x : Load τ α) := by
  cases x with
  | ok a => exact fun _ _ hst => .ok a hst
  | error e => exact fun _ _ hst => .error e hst

/-- A push of a task asks for the same things over both services. -/
theorem agree_pushTask (h : svc.Simulates R svc') (t : Task) (c : TaskChange) :
    Agree R (pushTask svc t c) (pushTask svc' t c) := by
  refine (agree_ask (h.task t.id)).bind fun found => ?_
  cases found with
  | none => exact (agree_ask (h.createTask t)).bind fun _ => .pure _
  | some _ =>
    exact (agree_ask (h.updateTask _ _)).bind fun _ => (agree_ask (h.updateTask _ _)).bind fun _ =>
      (agree_ask (h.updateTask _ _)).bind fun _ => .pure _

theorem agree_createOrReplace {found : Request σ (Option α)} {create replace : Request σ β}
    {found' : Request τ (Option α)} {create' replace' : Request τ β} (hfound : Agree R found found')
    (hcreate : Agree R create create') (hreplace : Agree R replace replace') (kind : ResourceKind)
    (id : String) : Agree R (Push.createOrReplace found create replace kind id)
      (Push.createOrReplace found' create' replace' kind id) := by
  refine (agree_ask hfound).bind fun a => ?_
  cases a with
  | none => exact (agree_ask hcreate).bind fun _ => .pure _
  | some _ => exact (agree_ask hreplace).bind fun _ => .pure _

/-- A push does not tell two services apart. -/
theorem agree_push (h : svc.Simulates R svc') (content : Except LoadError Push) :
    Agree R (push svc content) (push svc' content) := by
  refine (agree_ofExcept content).bind fun p => ?_
  cases p with
  | task id c hc => exact agree_pushTask h _ c
  | template t =>
    exact agree_createOrReplace (h.template t.id) (h.createTemplate t) (h.updateTemplate t) _ _
  | handler g =>
    exact agree_createOrReplace (h.handler g.topic g.id) (h.createHandler g) (h.replaceHandler g)
      _ _

/-- Files that are loaded alike one by one are loaded alike one after another. -/
theorem agree_each {load : String → Load σ Loaded} {load' : String → Load τ Loaded}
    (h : ∀ path, Agree R (load path) (load' path)) (paths : List String) :
    Agree R (each load paths) (each load' paths) := by
  induction paths with
  | nil => exact .pure _
  | cons path paths ih =>
    intro s t hst
    have hfile := h path s t hst
    unfold each
    generalize load path s = x at hfile
    generalize load' path t = y at hfile
    -- a file that fails is noted, and the files behind it are loaded all the same
    cases hfile with
    | ok l hst' => exact ih.bind (fun r => .pure _) _ _ hst'
    | error e hst' => exact ih.bind (fun r => .pure _) _ _ hst'

variable [Libraries]

theorem agree_templateScript (h : svc.Simulates R svc') (fs : FileSystem) (path : String) :
    Agree R (templateScript svc fs path) (templateScript svc' fs path) := by
  rw [templateScript_eq, templateScript_eq]
  exact (agree_ofExcept _).bind fun _ => (agree_push h _).bind fun _ => .pure _

/-- Templates are collected alike, so later variables are checked against the same programs. -/
theorem agree_eachTemplate (h : svc.Simulates R svc') (fs : FileSystem) (ts : Templates)
    (paths : List String) :
    Agree R (eachTemplate svc fs ts paths) (eachTemplate svc' fs ts paths) := by
  induction paths generalizing ts with
  | nil => exact .pure _
  | cons path paths ih =>
    intro s t hst
    have hfile := agree_templateScript h fs path s t hst
    unfold eachTemplate
    generalize templateScript svc fs path s = x at hfile
    generalize templateScript svc' fs path t = y at hfile
    cases hfile with
    | ok l hst' => exact (ih _).bind (fun r => .pure _) _ _ hst'
    | error e hst' => exact (ih _).bind (fun r => .pure _) _ _ hst'

/-- A load does not tell one service from the other: it gives the same report, or ends with the same
error. -/
theorem agree_run (h : svc.Simulates R svc') (fs : FileSystem) (c : LoadConfig) :
    Agree R (run svc fs c) (run svc' fs c) := by
  have hscripts : ∀ path, Agree R (taskScript svc fs path) (taskScript svc' fs path) := by
    intro path
    rw [taskScript_eq, taskScript_eq]
    exact agree_push h _
  have hvars : ∀ ts path, Agree R (taskVars svc fs ts path) (taskVars svc' fs ts path) := by
    intro ts path
    rw [taskVars_eq, taskVars_eq]
    exact agree_push h _
  have hhandlers : ∀ path, Agree R (handler svc fs path) (handler svc' fs path) := by
    intro path
    rw [handler_eq, handler_eq]
    exact agree_push h _
  exact (agree_ofExcept _).bind fun _ => (agree_each hscripts _).bind fun _ =>
    (agree_ofExcept _).bind fun _ => (agree_eachTemplate h fs _ _).bind fun _ =>
      (agree_each (hvars _) _).bind fun _ => (agree_ofExcept _).bind fun _ =>
        (agree_each hhandlers _).bind fun _ => .pure _

end Load

/-! ## Maps and lists -/

section Indexes

variable {κ α : Type} [DecidableEq κ] {cmp : κ → κ → Ordering}

/-- Under each key lies the first element of the list that has the key. -/
def Indexes (m : Std.TreeMap κ α cmp) (keyOf : α → κ) (xs : List α) : Prop :=
  ∀ k, m[k]? = xs.find? fun x => keyOf x = k

namespace Indexes

variable {m : Std.TreeMap κ α cmp} {keyOf : α → κ} {xs : List α}

/-- What lies under a key carries the key. -/
theorem keyOf_eq (h : Indexes m keyOf xs) {k : κ} {x : α} (hx : m[k]? = some x) : keyOf x = k := by
  rw [h k] at hx
  simpa using List.find?_some hx

variable [Std.TransCmp cmp]

/-- Empty maps stand for nothing. -/
theorem empty (keyOf : α → κ) : Indexes (∅ : Std.TreeMap κ α cmp) keyOf [] :=
  fun _ => Std.TreeMap.getElem?_emptyc

variable [Std.LawfulEqCmp cmp]

/-- What is inserted is found under its key, and everything else as before. -/
theorem getElem?_insert (m : Std.TreeMap κ α cmp) (k k' : κ) (x : α) :
    (m.insert k x)[k']? = if k = k' then some x else m[k']? := by
  simp only [Std.TreeMap.getElem?_insert, Std.LawfulEqCmp.compare_eq_iff_eq]

/-- A new element is put under its own key. -/
theorem append (h : Indexes m keyOf xs) {x : α} (hnew : m[keyOf x]? = none) :
    Indexes (m.insert (keyOf x) x) keyOf (xs ++ [x]) := by
  intro k
  rw [getElem?_insert, List.find?_append, ← h k]
  by_cases hk : keyOf x = k
  · subst hk
    rw [if_pos rfl, hnew]
    simp
  · rw [if_neg hk]
    simp [hk]

/-- What lies under a key is changed, and the change does not touch the key. -/
theorem change (h : Indexes m keyOf xs) {k : κ} {x : α} (hold : m[k]? = some x) {f : α → α}
    (hf : ∀ y, keyOf y = k → keyOf (f y) = k) :
    Indexes (m.insert k (f x)) keyOf (xs.map fun y => if keyOf y = k then f y else y) := by
  intro k'
  have hsame : ((fun y => decide (keyOf y = k')) ∘ fun y => if keyOf y = k then f y else y) =
      fun y => decide (keyOf y = k') := by
    funext y
    by_cases hy : keyOf y = k
    · simp [hy, hf y hy]
    · simp [hy]
  rw [getElem?_insert, List.find?_map, hsame, ← h k']
  by_cases hk : k = k'
  · subst hk
    rw [if_pos rfl, hold, Option.map_some, if_pos (h.keyOf_eq hold)]
  · rw [if_neg hk]
    cases hother : m[k']? with
    | none => rfl
    | some y =>
      have hy : keyOf y ≠ k := by
        rw [h.keyOf_eq hother]
        exact Ne.symm hk
      rw [Option.map_some, if_neg hy]

end Indexes

end Indexes

/-! ## The service -/

section Maps

attribute [local instance] lexOrd

/-- Tasks and templates by id, handlers by topic and id, and the calls so far. -/
structure Maps where
  tasks : Std.TreeMap String Task := ∅
  templates : Std.TreeMap String Template := ∅
  handlers : Std.TreeMap (String × String) Handler := ∅
  calls : List StoreCall := []

namespace Maps

/-- Adds a task under its id. -/
def createTask (t : Task) : Request Maps Task := fun m =>
  match m.tasks[t.id]? with
  | some _ => .error (.alreadyExists .task t.id) m
  | none =>
    .ok t { m with tasks := m.tasks.insert t.id t, calls := m.calls ++ [.createTask t.id] }

/-- Changes the task under an id. -/
def updateTask (id : String) (c : TaskChange) : Request Maps Task := fun m =>
  match m.tasks[id]? with
  | none => .error (.notFound .task id) m
  | some t =>
    .ok (c.apply t)
      { m with
        tasks := m.tasks.insert id (c.apply t)
        calls := m.calls ++ [.updateTask id c.status] }

/-- Adds a template under its id. -/
def createTemplate (t : Template) : Request Maps Template := fun m =>
  match m.templates[t.id]? with
  | some _ => .error (.alreadyExists .template t.id) m
  | none =>
    .ok t
      { m with
        templates := m.templates.insert t.id t
        calls := m.calls ++ [.createTemplate t.id] }

/-- Replaces the template under an id. -/
def updateTemplate (t : Template) : Request Maps Template := fun m =>
  match m.templates[t.id]? with
  | none => .error (.notFound .template t.id) m
  | some _ =>
    .ok t
      { m with
        templates := m.templates.insert t.id t
        calls := m.calls ++ [.updateTemplate t.id] }

/-- Adds a handler under its topic and id. -/
def createHandler (h : Handler) : Request Maps Handler := fun m =>
  match m.handlers[h.key]? with
  | some _ => .error (.alreadyExists .handler h.id) m
  | none =>
    .ok h
      { m with
        handlers := m.handlers.insert h.key h
        calls := m.calls ++ [.createHandler h.topic h.id] }

/-- Replaces the handler under a topic and an id. -/
def replaceHandler (h : Handler) : Request Maps Handler := fun m =>
  match m.handlers[h.key]? with
  | none => .error (.notFound .handler h.id) m
  | some _ =>
    .ok h
      { m with
        handlers := m.handlers.insert h.key h
        calls := m.calls ++ [.replaceHandler h.topic h.id] }

/-- The maps as a service. -/
def service : Service Maps where
  task := fun id m => .ok m.tasks[id]? m
  createTask := createTask
  updateTask := updateTask
  template := fun id m => .ok m.templates[id]? m
  createTemplate := createTemplate
  updateTemplate := updateTemplate
  handler := fun topic id m => .ok m.handlers[(topic, id)]? m
  createHandler := createHandler
  replaceHandler := replaceHandler

/-- Every resource carries the key that it lies under. -/
structure Keyed (m : Maps) : Prop where
  task : ∀ (id : String) (t : Task), m.tasks[id]? = some t → t.id = id
  template : ∀ (id : String) (t : Template), m.templates[id]? = some t → t.id = id
  handler : ∀ (topic id : String) (h : Handler),
    m.handlers[(topic, id)]? = some h → h.topic = topic ∧ h.id = id

/-! ## Maps and the store -/

/-- Under each key lies what the store finds by it, and the logs are the same. -/
structure Matches (m : Maps) (s : Store) : Prop where
  tasks : Indexes m.tasks Task.id s.tasks
  templates : Indexes m.templates Template.id s.templates
  handlers : Indexes m.handlers Handler.key s.handlers
  calls : m.calls = s.calls

/-- Empty maps match the empty store. -/
theorem matches_empty : Matches {} .empty :=
  ⟨.empty _, .empty _, .empty _, rfl⟩

namespace Matches

variable {m : Maps} {s : Store} (h : Matches m s)

include h

/-- A task is found by its id in both. -/
theorem task (id : String) : m.tasks[id]? = s.findTask? id := by
  rw [Store.findTask?_eq]
  exact h.tasks id

theorem template (id : String) : m.templates[id]? = s.findTemplate? id := by
  rw [Store.findTemplate?_eq]
  exact h.templates id

theorem handler (topic id : String) : m.handlers[(topic, id)]? = s.findHandler? topic id := by
  rw [Store.findHandler?_eq]
  exact h.handlers (topic, id)

/-- Maps that match a store have each resource under the key on it. -/
theorem keyed : Keyed m where
  task := fun _ _ ht => h.tasks.keyOf_eq ht
  template := fun _ _ ht => h.templates.keyOf_eq ht
  handler := fun _ _ _ hg => Prod.ext_iff.1 (h.handlers.keyOf_eq hg)

end Matches

/-- Creating a task in the maps is creating it in the store. -/
theorem agree_createTask (t : Task) : Agree Matches (createTask t) (Store.createTask t) := by
  intro m s h
  have htask := h.task t.id
  unfold createTask Store.createTask
  rw [htask]
  cases hfound : s.findTask? t.id with
  | some u => exact .error _ h
  | none =>
    rw [hfound] at htask
    exact .ok t ⟨h.tasks.append htask, h.templates, h.handlers, congrArg (· ++ _) h.calls⟩

/-- Changing a task in the maps is changing it in the store. -/
theorem agree_updateTask (id : String) (c : TaskChange) :
    Agree Matches (updateTask id c) (Store.updateTask id c) := by
  intro m s h
  have htask := h.task id
  unfold updateTask Store.updateTask
  rw [htask]
  cases hfound : s.findTask? id with
  | none => exact .error _ h
  | some t =>
    rw [hfound] at htask
    -- a change never touches the id
    have htasks := h.tasks.change htask (f := c.apply) fun _ hid => hid
    simp only [beq_iff_eq]
    exact .ok _ ⟨htasks, h.templates, h.handlers, congrArg (· ++ _) h.calls⟩

theorem agree_createTemplate (t : Template) :
    Agree Matches (createTemplate t) (Store.createTemplate t) := by
  intro m s h
  have htemplate := h.template t.id
  unfold createTemplate Store.createTemplate
  rw [htemplate]
  cases hfound : s.findTemplate? t.id with
  | some u => exact .error _ h
  | none =>
    rw [hfound] at htemplate
    exact .ok t ⟨h.tasks, h.templates.append htemplate, h.handlers, congrArg (· ++ _) h.calls⟩

theorem agree_updateTemplate (t : Template) :
    Agree Matches (updateTemplate t) (Store.updateTemplate t) := by
  intro m s h
  have htemplate := h.template t.id
  unfold updateTemplate Store.updateTemplate
  rw [htemplate]
  cases hfound : s.findTemplate? t.id with
  | none => exact .error _ h
  | some u =>
    rw [hfound] at htemplate
    have htemplates := h.templates.change htemplate (f := fun _ => t) fun _ _ => rfl
    simp only [beq_iff_eq]
    exact .ok t ⟨h.tasks, htemplates, h.handlers, congrArg (· ++ _) h.calls⟩

theorem agree_createHandler (g : Handler) :
    Agree Matches (createHandler g) (Store.createHandler g) := by
  intro m s h
  have hhandler : m.handlers[g.key]? = _ := h.handler g.topic g.id
  unfold createHandler Store.createHandler
  rw [hhandler]
  cases hfound : s.findHandler? g.topic g.id with
  | some f => exact .error _ h
  | none =>
    rw [hfound] at hhandler
    exact .ok g ⟨h.tasks, h.templates, h.handlers.append hhandler, congrArg (· ++ _) h.calls⟩

theorem agree_replaceHandler (g : Handler) :
    Agree Matches (replaceHandler g) (Store.replaceHandler g) := by
  intro m s h
  have hhandler : m.handlers[g.key]? = _ := h.handler g.topic g.id
  unfold replaceHandler Store.replaceHandler
  rw [hhandler]
  cases hfound : s.findHandler? g.topic g.id with
  | none => exact .error _ h
  | some f =>
    rw [hfound] at hhandler
    have hhandlers := h.handlers.change hhandler (f := fun _ => g) fun _ _ => rfl
    -- the two parts of the key are compared one by one
    simp only [Handler.key, Prod.mk.injEq] at hhandlers
    simp only [Bool.and_eq_true, beq_iff_eq]
    exact .ok g ⟨h.tasks, h.templates, hhandlers, congrArg (· ++ _) h.calls⟩

/-- The maps and the store cannot be told apart by what they are asked for. -/
theorem simulates : Service.Simulates Matches service Store.service where
  task := fun id m s h => by
    show SameEnd _ (.ok m.tasks[id]? m) (.ok (s.findTask? id) s)
    rw [h.task]
    exact .ok _ h
  createTask := agree_createTask
  updateTask := agree_updateTask
  template := fun id m s h => by
    show SameEnd _ (.ok m.templates[id]? m) (.ok (s.findTemplate? id) s)
    rw [h.template]
    exact .ok _ h
  createTemplate := agree_createTemplate
  updateTemplate := agree_updateTemplate
  handler := fun topic id m s h => by
    show SameEnd _ (.ok m.handlers[(topic, id)]? m) (.ok (s.findHandler? topic id) s)
    rw [h.handler]
    exact .ok _ h
  createHandler := agree_createHandler
  replaceHandler := agree_replaceHandler

/-- A load into maps gives the report, or the error, of the load into a store that they match, and
afterwards they match again. -/
theorem agree_load [Load.Libraries] (fs : FileSystem) (c : LoadConfig) :
    Agree Matches (Load.run service fs c) (Load.run Store.service fs c) :=
  Load.agree_run simulates fs c

end Maps

end Maps

end Tickscript
