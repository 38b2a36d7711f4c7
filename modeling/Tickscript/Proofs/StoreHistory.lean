import Tickscript.Proofs.KeyedMaps
import Tickscript.Proofs.LoadSteps

/-!
# The log of a store tells what is in it

A store is asked for one thing after another, in any order. Whatever it is asked for, its log and
its contents go together (`Store.after_history`): a resource is there exactly if the log has the
call that created it, once and before all other calls about it; and a task has the status that the
last call to set one has set, or else the one it was created with. A request that fails leaves no
trace in either.

Nine operations on three lists could go wrong, each in its own way. They are opened once, in
`Message.send_outcome`. For the log it only matters which *key* a request is about and whether it
creates or changes what has the key (`Store.Advance`), so tasks, templates and handlers are one case
there; only the status needs to be told for tasks by themselves.

A resource of the store has its key from the list it is in. That a service with maps puts it under
the same key is shown along the way (`Maps.matches_after`).
-/

namespace Tickscript

/-! ## Messages -/

/-- Something that a service is asked for. -/
inductive Message where
  | task (id : String)
  | createTask (t : Task)
  | updateTask (id : String) (c : TaskChange)
  | template (id : String)
  | createTemplate (t : Template)
  | updateTemplate (t : Template)
  | handler (topic id : String)
  | createHandler (h : Handler)
  | replaceHandler (h : Handler)

namespace Message

/-- Whether nothing but an answer is asked for. -/
def isLookup : Message → Bool
  | task _ | template _ | handler _ _ => true
  | _ => false

/-- Sends the message to a service. Of an answer it only matters here that there is one. -/
def send {σ : Type} (svc : Service σ) : Message → Request σ Unit
  | task id => (fun _ => ()) <$> svc.task id
  | createTask t => (fun _ => ()) <$> svc.createTask t
  | updateTask id c => (fun _ => ()) <$> svc.updateTask id c
  | template id => (fun _ => ()) <$> svc.template id
  | createTemplate t => (fun _ => ()) <$> svc.createTemplate t
  | updateTemplate t => (fun _ => ()) <$> svc.updateTemplate t
  | handler topic id => (fun _ => ()) <$> svc.handler topic id
  | createHandler h => (fun _ => ()) <$> svc.createHandler h
  | replaceHandler h => (fun _ => ()) <$> svc.replaceHandler h

/-- What a message to a store can do. -/
inductive Outcome (s : Store) : Message → EStateM.Result ServiceError Store Unit → Prop where
  | refused {m : Message} (hm : m.isLookup = false) (e : ServiceError) : Outcome s m (.error e s)
  | lookup {m : Message} (hm : m.isLookup = true) : Outcome s m (.ok () s)
  | createTask {t : Task} (hnew : s.findTask? t.id = none) :
      Outcome s (.createTask t)
        (.ok () { s with tasks := s.tasks ++ [t], calls := s.calls ++ [.createTask t.id] })
  | updateTask {id : String} {t : Task} (c : TaskChange) (hold : s.findTask? id = some t) :
      Outcome s (.updateTask id c) (.ok () (s.withChange id c))
  | createTemplate {t : Template} (hnew : s.findTemplate? t.id = none) :
      Outcome s (.createTemplate t)
        (.ok () { s with
          templates := s.templates ++ [t]
          calls := s.calls ++ [.createTemplate t.id] })
  | updateTemplate {t u : Template} (hold : s.findTemplate? t.id = some u) :
      Outcome s (.updateTemplate t)
        (.ok () { s with
          templates := s.templates.map fun u => if u.id == t.id then t else u
          calls := s.calls ++ [.updateTemplate t.id] })
  | createHandler {h : Handler} (hnew : s.findHandler? h.topic h.id = none) :
      Outcome s (.createHandler h)
        (.ok () { s with
          handlers := s.handlers ++ [h]
          calls := s.calls ++ [.createHandler h.topic h.id] })
  | replaceHandler {h g : Handler} (hold : s.findHandler? h.topic h.id = some g) :
      Outcome s (.replaceHandler h)
        (.ok () { s with
          handlers := s.handlers.map fun g => if g.topic == h.topic && g.id == h.id then h else g
          calls := s.calls ++ [.replaceHandler h.topic h.id] })

/-- An answer that is thrown away leaves the rest of a request as it is. -/
theorem map_apply {σ α : Type} (r : Request σ α) (s : σ) :
    ((fun _ => ()) <$> r : Request σ Unit) s =
      match r s with
      | .ok _ s' => .ok () s'
      | .error e s' => .error e s' := by
  show EStateM.map _ r s = _
  rw [EStateM.map]
  cases r s <;> rfl

/-- What a store makes of a message is one of the outcomes. -/
theorem send_outcome (m : Message) (s : Store) : Outcome s m (m.send Store.service s) := by
  cases m with
  | task | template | handler => exact .lookup rfl
  | createTask t =>
    simp only [send, map_apply, Store.service, Store.createTask]
    cases hfound : s.findTask? t.id with
    | none => exact .createTask hfound
    | some u => exact .refused rfl _
  | updateTask id c =>
    cases hfound : s.findTask? id with
    | none =>
      simp only [send, map_apply, Store.service, Store.updateTask, hfound]
      exact .refused rfl _
    | some t =>
      obtain ⟨u, hu⟩ := Store.updateTask_of_known (Option.isSome_iff_exists.2 ⟨t, hfound⟩) c
      simp only [send, map_apply, Store.service, hu]
      exact .updateTask c hfound
  | createTemplate t =>
    simp only [send, map_apply, Store.service, Store.createTemplate]
    cases hfound : s.findTemplate? t.id with
    | none => exact .createTemplate hfound
    | some u => exact .refused rfl _
  | updateTemplate t =>
    simp only [send, map_apply, Store.service, Store.updateTemplate]
    cases hfound : s.findTemplate? t.id with
    | none => exact .refused rfl _
    | some u => exact .updateTemplate hfound
  | createHandler h =>
    simp only [send, map_apply, Store.service, Store.createHandler]
    cases hfound : s.findHandler? h.topic h.id with
    | none => exact .createHandler hfound
    | some g => exact .refused rfl _
  | replaceHandler h =>
    simp only [send, map_apply, Store.service, Store.replaceHandler]
    cases hfound : s.findHandler? h.topic h.id with
    | none => exact .refused rfl _
    | some g => exact .replaceHandler hfound

/-- A message that fails leaves everything as it was. -/
theorem eq_of_send_eq_error {m : Message} {s s' : Store} {e : ServiceError}
    (h : m.send Store.service s = .error e s') : s' = s := by
  have houtcome := m.send_outcome s
  rw [h] at houtcome
  cases houtcome
  rfl

/-- Looking something up always goes well, and changes nothing. -/
theorem send_of_isLookup {m : Message} (hm : m.isLookup = true) (s : Store) :
    m.send Store.service s = .ok () s := by
  have houtcome := m.send_outcome s
  generalize m.send Store.service s = res at houtcome
  cases houtcome with
  | lookup => rfl
  | refused hno =>
    rw [hm] at hno
    cases hno
  | _ => cases hm

end Message

/-- The store after some messages to an empty one. -/
def Store.after (ms : List Message) : Store :=
  ms.foldl (fun s m => Load.stateOf (m.send Store.service s)) .empty

/-- One more message is sent to the store after the others. -/
theorem Store.after_concat (ms : List Message) (m : Message) :
    after (ms ++ [m]) = Load.stateOf (m.send Store.service (after ms)) := by
  simp [after]

/-! ## The same messages to maps -/

/-- What is related at the end of two runs is related in their last states. -/
theorem SameEnd.stateOf {σ τ ε α : Type} {R : σ → τ → Prop} {x : EStateM.Result ε σ α}
    {y : EStateM.Result ε τ α} (h : SameEnd R x y) : R (Load.stateOf x) (Load.stateOf y) := by
  cases h with
  | ok _ h | error _ h => exact h

/-- A message does not tell one service from the other. -/
theorem Message.agree_send {σ τ : Type} {R : σ → τ → Prop} {svc : Service σ} {svc' : Service τ}
    (h : svc.Simulates R svc') (m : Message) : Agree R (m.send svc) (m.send svc') := by
  cases m with
  | task id => exact (h.task id).map _
  | createTask t => exact (h.createTask t).map _
  | updateTask id c => exact (h.updateTask id c).map _
  | template id => exact (h.template id).map _
  | createTemplate t => exact (h.createTemplate t).map _
  | updateTemplate t => exact (h.updateTemplate t).map _
  | handler topic id => exact (h.handler topic id).map _
  | createHandler g => exact (h.createHandler g).map _
  | replaceHandler g => exact (h.replaceHandler g).map _

namespace Maps

/-- The maps after some messages to empty ones. -/
def after (ms : List Message) : Maps :=
  ms.foldl (fun maps m => Load.stateOf (m.send service maps)) {}

/-- One more message is sent to the maps after the others. -/
theorem after_concat (ms : List Message) (m : Message) :
    after (ms ++ [m]) = Load.stateOf (m.send service (after ms)) := by
  simp [after]

/-- After the same messages the maps have under each key what the store finds by it. -/
theorem matches_after (ms : List Message) : Matches (after ms) (Store.after ms) := by
  induction ms using List.reverseRecOn with
  | nil => exact matches_empty
  | append_singleton ms m ih =>
    rw [after_concat, Store.after_concat]
    exact (m.agree_send simulates _ _ ih).stateOf

end Maps

/-! ## Keys -/

/-- What a resource is found by. -/
inductive ResourceKey where
  | task (id : String)
  | template (id : String)
  | handler (topic id : String)
deriving DecidableEq

/-- The call that creates what has a key. -/
def ResourceKey.creation : ResourceKey → StoreCall
  | task id => .createTask id
  | template id => .createTemplate id
  | handler topic id => .createHandler topic id

namespace StoreCall

/-- What a call is about. -/
def key : StoreCall → ResourceKey
  | createTask id | updateTask id _ => .task id
  | createTemplate id | updateTemplate id => .template id
  | createHandler topic id | replaceHandler topic id => .handler topic id

/-- Whether a call creates what it is about. -/
def creates : StoreCall → Bool
  | createTask _ | createTemplate _ | createHandler _ _ => true
  | _ => false

end StoreCall

/-- The call that creates a resource is about it. -/
theorem ResourceKey.key_creation (k : ResourceKey) : k.creation.key = k := by
  cases k <;> rfl

namespace Store

/-- The keys of all resources. -/
def keys (s : Store) : List ResourceKey :=
  s.tasks.map (fun t => .task t.id) ++ s.templates.map (fun t => .template t.id) ++
    s.handlers.map fun h => .handler h.topic h.id

/-- The calls about a key, in their order. -/
def history (s : Store) (k : ResourceKey) : List StoreCall := s.calls.filter fun x => x.key = k

/-- The key that is on the resource which is found by a key. -/
def found? (s : Store) : ResourceKey → Option ResourceKey
  | .task id => (s.findTask? id).map fun t => .task t.id
  | .template id => (s.findTemplate? id).map fun t => .template t.id
  | .handler topic id => (s.findHandler? topic id).map fun h => .handler h.topic h.id

/-- What is found by a key in a list has that key, and is found if there is any such thing. -/
theorem find?_map_key {α κ δ : Type} [DecidableEq κ] (tag : κ → δ) {keyOf : α → κ} {xs : List α}
    {k : κ} {there : Prop} [Decidable there] (h : there ↔ k ∈ xs.map keyOf) :
    (xs.find? fun x => keyOf x = k).map (fun x => tag (keyOf x)) =
      if there then some (tag k) else none := by
  cases hfound : xs.find? fun x => keyOf x = k with
  | none =>
    have hno : k ∉ xs.map keyOf := by simpa using hfound
    rw [if_neg (mt h.1 hno)]
    rfl
  | some x =>
    have hx : keyOf x = k := by simpa using List.find?_some hfound
    have hin : k ∈ xs.map keyOf := List.mem_map.2 ⟨x, List.mem_of_find?_eq_some hfound, hx⟩
    rw [if_pos (h.2 hin), Option.map_some, hx]

/-- A lookup finds what has the key that was asked for, and finds it if it is there. -/
theorem found?_eq (s : Store) (k : ResourceKey) :
    s.found? k = if k ∈ s.keys then some k else none := by
  cases k with
  | task id =>
    have hkeys : ResourceKey.task id ∈ s.keys ↔ id ∈ s.tasks.map Task.id := by simp [keys]
    rw [found?, findTask?_eq]
    exact find?_map_key ResourceKey.task hkeys
  | template id =>
    have hkeys : ResourceKey.template id ∈ s.keys ↔ id ∈ s.templates.map Template.id := by
      simp [keys]
    rw [found?, findTemplate?_eq]
    exact find?_map_key ResourceKey.template hkeys
  | handler topic id =>
    have hkeys : ResourceKey.handler topic id ∈ s.keys ↔
        (topic, id) ∈ s.handlers.map Handler.key := by
      simp [keys, Handler.key]
    rw [found?, findHandler?_eq]
    exact find?_map_key (fun k => ResourceKey.handler k.1 k.2) hkeys

/-- What is found is there. -/
theorem mem_keys_of_found? {s : Store} {k : ResourceKey} (h : (s.found? k).isSome = true) :
    k ∈ s.keys := by
  by_contra hno
  rw [found?_eq, if_neg hno] at h
  cases h

/-- What is not found is not there. -/
theorem not_mem_keys_of_found? {s : Store} {k : ResourceKey} (h : s.found? k = none) :
    k ∉ s.keys := by
  intro hin
  rw [found?_eq, if_pos hin] at h
  cases h

/-- From one store to the next: nothing happens, or something is created under a key that nothing
had, or something that is there is changed and keeps its key. The log has a call for it. -/
inductive Advance (s s' : Store) : Prop where
  | same (h : s' = s)
  | created (k : ResourceKey) (hnew : k ∉ s.keys) (hkeys : s'.keys.Perm (k :: s.keys))
      (hcalls : s'.calls = s.calls ++ [k.creation])
  | changed (x : StoreCall) (hx : x.creates = false) (hold : x.key ∈ s.keys)
      (hkeys : s'.keys = s.keys) (hcalls : s'.calls = s.calls ++ [x])

end Store

/-- Every message takes a store to the next one. -/
theorem Message.Outcome.advance {s : Store} {m : Message}
    {res : EStateM.Result ServiceError Store Unit} (h : Outcome s m res) :
    s.Advance (Load.stateOf res) := by
  cases h with
  | refused | lookup => exact .same rfl
  | @createTask t hnew =>
    refine .created (.task t.id) (Store.not_mem_keys_of_found? ?_) ?_ rfl
    · rw [Store.found?, hnew]
      rfl
    · simp [Load.stateOf, Store.keys, List.perm_middle]
  | @updateTask id t c hold =>
    refine .changed (.updateTask id c.status) rfl (Store.mem_keys_of_found? ?_) ?_ rfl
    · rw [StoreCall.key, Store.found?, hold]
      rfl
    · -- a change never touches the id
      have hid : ∀ u : Task, (if u.id = id then c.apply u else u).id = u.id := by
        intro u
        split <;> rfl
      simp [Load.stateOf, Store.keys, Store.withChange, hid]
  | @createTemplate t hnew =>
    refine .created (.template t.id) (Store.not_mem_keys_of_found? ?_) ?_ rfl
    · rw [Store.found?, hnew]
      rfl
    · simp only [Load.stateOf, Store.keys, List.map_append, List.map_cons, List.map_nil]
      rw [← List.append_assoc, List.append_assoc _ [_]]
      exact List.perm_middle
  | @updateTemplate t u hold =>
    refine .changed (.updateTemplate t.id) rfl (Store.mem_keys_of_found? ?_) ?_ rfl
    · rw [StoreCall.key, Store.found?, hold]
      rfl
    · -- what is put in the place of a template was found by the same id
      have hid : ∀ u : Template, (if u.id = t.id then t else u).id = u.id := by
        intro u
        split
        · next hu => exact hu.symm
        · rfl
      simp [Load.stateOf, Store.keys, hid]
  | @createHandler h hnew =>
    refine .created (.handler h.topic h.id) (Store.not_mem_keys_of_found? ?_) ?_ rfl
    · rw [Store.found?, hnew]
      rfl
    · simp only [Load.stateOf, Store.keys, List.map_append, List.map_cons, List.map_nil]
      rw [← List.append_assoc]
      exact List.perm_append_singleton _ _
  | @replaceHandler h g hold =>
    refine .changed (.replaceHandler h.topic h.id) rfl (Store.mem_keys_of_found? ?_) ?_ rfl
    · rw [StoreCall.key, Store.found?, hold]
      rfl
    · have hkey : ∀ g : Handler,
          (if g.topic = h.topic ∧ g.id = h.id then h else g).topic = g.topic ∧
            (if g.topic = h.topic ∧ g.id = h.id then h else g).id = g.id := by
        intro g
        split
        · next hg => exact ⟨hg.1.symm, hg.2.symm⟩
        · exact ⟨rfl, rfl⟩
      simp [Load.stateOf, Store.keys, hkey]

/-! ## The log and the keys -/

namespace Store

/-- The log has no call about a key that nothing has, and about any other the call that created
what has it, followed by changes only. -/
def Recorded (s : Store) (k : ResourceKey) : Prop :=
  k ∉ s.keys ∧ s.history k = [] ∨
    k ∈ s.keys ∧ ∃ rest, s.history k = k.creation :: rest ∧ ∀ x ∈ rest, x.creates = false

/-- No key is there twice, and the log tells of each. -/
structure Faithful (s : Store) : Prop where
  distinct : s.keys.Nodup
  recorded : ∀ k, s.Recorded k

/-- An empty store has nothing to tell of. -/
theorem faithful_empty : Faithful .empty :=
  ⟨.nil, fun _ => .inl ⟨by simp [keys, empty], rfl⟩⟩

/-- A call is appended to the history of its own key. -/
theorem history_of_calls {s s' : Store} {x : StoreCall} (h : s'.calls = s.calls ++ [x])
    (k : ResourceKey) : s'.history k = s.history k ++ if x.key = k then [x] else [] := by
  rw [history, h, List.filter_append, List.filter_singleton]
  by_cases hx : x.key = k
  · simp [history, hx]
  · simp [history, hx]

/-- From one store to the next the log stays faithful. -/
theorem Faithful.advance {s s' : Store} (h : s.Faithful) (hstep : s.Advance s') :
    s'.Faithful := by
  cases hstep with
  | same heq =>
    rw [heq]
    exact h
  | created k hnew hkeys hcalls =>
    refine ⟨hkeys.nodup_iff.2 (List.nodup_cons.2 ⟨hnew, h.distinct⟩), fun k' => ?_⟩
    have hhistory := history_of_calls hcalls k'
    rw [k.key_creation] at hhistory
    by_cases hk : k = k'
    · -- There was nothing under the key, so the log of it begins here.
      subst hk
      have hnone : s.history k = [] := by
        rcases h.recorded k with ⟨-, hnil⟩ | ⟨hin, -⟩
        · exact hnil
        · exact absurd hin hnew
      rw [hnone, if_pos rfl] at hhistory
      exact .inr ⟨hkeys.mem_iff.2 (by simp), [], hhistory, by simp⟩
    · have hmem : k' ∈ s'.keys ↔ k' ∈ s.keys := by
        rw [hkeys.mem_iff, List.mem_cons]
        exact or_iff_right (Ne.symm hk)
      rw [if_neg hk, List.append_nil] at hhistory
      unfold Recorded
      rw [hmem, hhistory]
      exact h.recorded k'
  | changed x hx hold hkeys hcalls =>
    refine ⟨hkeys ▸ h.distinct, fun k' => ?_⟩
    have hhistory := history_of_calls hcalls k'
    unfold Recorded
    rw [hkeys, hhistory]
    by_cases hk : x.key = k'
    · -- What is changed is there, so the call that created it comes before.
      subst hk
      rcases h.recorded x.key with ⟨hno, -⟩ | ⟨hin, rest, hrest, hchanges⟩
      · exact absurd hold hno
      · refine .inr ⟨hin, rest ++ [x], ?_, fun y hy => ?_⟩
        · rw [hrest, if_pos rfl, List.cons_append]
        · rcases List.mem_append.1 hy with hy | hy
          · exact hchanges y hy
          · rw [List.mem_singleton.1 hy]
            exact hx
    · rw [if_neg hk, List.append_nil]
      exact h.recorded k'

/-- After any messages the log is faithful. -/
theorem faithful_after (ms : List Message) : (after ms).Faithful := by
  induction ms using List.reverseRecOn with
  | nil => exact faithful_empty
  | append_singleton ms m ih =>
    rw [after_concat]
    exact ih.advance (m.send_outcome _).advance

end Store

/-! ## The status of tasks -/

/-- The status that a call sets for a task. -/
def StoreCall.statusOf? (id : String) : StoreCall → Option Status
  | updateTask id' status => if id' = id then status else none
  | _ => none

namespace Store

/-- The last status that a call has set for a task. -/
def lastStatus? (s : Store) (id : String) : Option Status :=
  (s.calls.filterMap (StoreCall.statusOf? id)).getLast?

/-- The last status is that of the last call, if it sets one. -/
theorem lastStatus?_of_calls {s s' : Store} {x : StoreCall} (h : s'.calls = s.calls ++ [x])
    (id : String) : s'.lastStatus? id = (x.statusOf? id).or (s.lastStatus? id) := by
  rw [lastStatus?, h, List.filterMap_append, List.getLast?_append]
  cases hx : x.statusOf? id <;> simp [lastStatus?, hx]

theorem lastStatus?_of_silent {s s' : Store} {x : StoreCall} (h : s'.calls = s.calls ++ [x])
    {id : String} (hx : x.statusOf? id = none) : s'.lastStatus? id = s.lastStatus? id := by
  rw [lastStatus?_of_calls h, hx, Option.none_or]

/-- Nothing was set for a task that the log does not tell of. -/
theorem lastStatus?_of_history {s : Store} {id : String} (h : s.history (.task id) = []) :
    s.lastStatus? id = none := by
  have hnone : s.calls.filterMap (StoreCall.statusOf? id) = [] := by
    rw [List.filterMap_eq_nil_iff]
    intro x hx
    have hkey : x.key ≠ .task id := by simpa using List.filter_eq_nil_iff.1 h x hx
    cases x with
    | updateTask id' status =>
      have hid : id' ≠ id := by
        rintro rfl
        exact hkey rfl
      exact if_neg hid
    | _ => rfl
  rw [lastStatus?, hnone]
  rfl

end Store

/-- A task is created by one of the messages: at its turn there was no task with the id. -/
def Message.Creates (ms : List Message) (t : Task) : Prop :=
  ∃ before rest s', ms = before ++ createTask t :: rest ∧
    (createTask t).send Store.service (Store.after before) = .ok () s'

/-- What has created a task has done so whatever is sent later. -/
theorem Message.Creates.append {ms : List Message} {t : Task} (h : Creates ms t) (m : Message) :
    Creates (ms ++ [m]) t := by
  obtain ⟨before, rest, s', rfl, hsend⟩ := h
  exact ⟨before, rest ++ [m], s', by simp, hsend⟩

namespace Store

/-- A task has the status that was set for it last, or the one it was created with. -/
theorem status_after (ms : List Message) :
    ∀ t ∈ (after ms).tasks, ∃ created, Message.Creates ms created ∧ created.id = t.id ∧
      t.status = ((after ms).lastStatus? t.id).getD created.status := by
  induction ms using List.reverseRecOn with
  | nil => simp [after, empty]
  | append_singleton ms m ih =>
    have hfaithful := faithful_after ms
    rw [after_concat]
    -- A call that sets no status leaves what is known of the tasks that were there.
    have hkept : ∀ s' : Store, (∀ id, s'.lastStatus? id = (after ms).lastStatus? id) →
        ∀ t ∈ (after ms).tasks, ∃ created, Message.Creates (ms ++ [m]) created ∧
          created.id = t.id ∧ t.status = (s'.lastStatus? t.id).getD created.status := by
      intro s' hs' t ht
      obtain ⟨created, hcreates, hid, hstatus⟩ := ih t ht
      exact ⟨created, hcreates.append m, hid, by rw [hs']; exact hstatus⟩
    have houtcome := m.send_outcome (after ms)
    generalize hres : m.send Store.service (after ms) = res at houtcome
    cases houtcome with
    | refused | lookup => exact hkept _ fun _ => rfl
    | createTemplate | updateTemplate | createHandler | replaceHandler =>
      exact hkept _ fun id => lastStatus?_of_silent rfl rfl
    | @createTask u hnew =>
      intro t ht
      rcases List.mem_append.1 ht with ht | ht
      · exact hkept _ (fun id => lastStatus?_of_silent rfl rfl) t ht
      · -- The log does not tell of the new task, so nothing was set for it.
        obtain rfl := List.mem_singleton.1 ht
        refine ⟨t, ⟨ms, [], _, rfl, hres⟩, rfl, ?_⟩
        have hnone : (after ms).history (.task t.id) = [] := by
          rcases hfaithful.recorded (.task t.id) with ⟨-, hnil⟩ | ⟨hin, -⟩
          · exact hnil
          · refine absurd hin (not_mem_keys_of_found? ?_)
            rw [found?, hnew]
            rfl
        rw [lastStatus?_of_silent (s := after ms) (x := .createTask t.id) rfl rfl,
          lastStatus?_of_history hnone]
        rfl
    | @updateTask id u c hold =>
      intro t ht
      obtain ⟨v, hv, rfl⟩ := List.mem_map.1 ht
      obtain ⟨created, hcreates, hid, hstatus⟩ := ih v hv
      have hlast : ((after ms).withChange id c).lastStatus? v.id =
          (if id = v.id then c.status else none).or ((after ms).lastStatus? v.id) :=
        lastStatus?_of_calls (x := .updateTask id c.status) rfl v.id
      refine ⟨created, hcreates.append _, ?_⟩
      by_cases hvid : v.id = id
      · rw [if_pos hvid.symm] at hlast
        rw [if_pos hvid]
        refine ⟨hid, ?_⟩
        show c.status.getD v.status = (((after ms).withChange id c).lastStatus? v.id).getD _
        rw [hlast, hstatus, Option.getD_or]
      · rw [if_neg (Ne.symm hvid), Option.none_or] at hlast
        rw [if_neg hvid]
        exact ⟨hid, by rw [Load.stateOf, hlast]; exact hstatus⟩

/-- What holds of a store whatever it has been asked for since it was empty. A message that fails
leaves it as it is, and so does one that only looks something up. No two resources have one key. The
log tells of each key: if nothing has it, there is no call about it; otherwise the first call about
it is the one that created the resource, all others changed it, and the resource is found by the
key. And each task has the status that was set for it last, or else the one that it was created
with.

Kept as maps, the service has under each key what the store finds by it, and the same log. There too
every resource carries the key that it lies under. -/
theorem after_history (ms : List Message) :
    (∀ (m : Message) e s', m.send Store.service (after ms) = .error e s' → s' = after ms) ∧
    (∀ m : Message, m.isLookup = true → m.send Store.service (after ms) = .ok () (after ms)) ∧
    (after ms).keys.Nodup ∧
    (∀ k, (after ms).history k = [] ∧ (after ms).found? k = none ∨
      (∃ rest, (after ms).history k = k.creation :: rest ∧ ∀ x ∈ rest, x.creates = false) ∧
        (after ms).found? k = some k) ∧
    (∀ t ∈ (after ms).tasks, ∃ created, Message.Creates ms created ∧ created.id = t.id ∧
      t.status = ((after ms).lastStatus? t.id).getD created.status) ∧
    (Maps.after ms).Matches (after ms) ∧ (Maps.after ms).Keyed := by
  have hmatches := Maps.matches_after ms
  refine ⟨fun m e s' => Message.eq_of_send_eq_error, fun m hm => Message.send_of_isLookup hm _,
    (faithful_after ms).distinct, fun k => ?_, status_after ms, hmatches, hmatches.keyed⟩
  rw [found?_eq]
  rcases (faithful_after ms).recorded k with ⟨hno, hnil⟩ | ⟨hin, hrest⟩
  · exact .inl ⟨hnil, if_neg hno⟩
  · exact .inr ⟨hrest, if_pos hin⟩

end Store

end Tickscript
