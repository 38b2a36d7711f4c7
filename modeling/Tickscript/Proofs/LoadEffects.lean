import Tickscript.Load.Libraries
import Tickscript.Proofs.LoadPlan

/-!
# What a load does to a store

A load into a store fails at no request: files fail for what they hold and for nothing else. The
calls that the store notes follow the report, file by file, and what no loaded file names stays as
it was (`Load.run_effects`).

The three lists of a store behave alike under pushes. What they have in common is a `Part`: its
elements, their keys, and the edits that pushes make there.
-/

namespace Tickscript

/-! ## Changes of a task -/

namespace TaskChange

section Options

variable {α : Type}

theorem or_again (a b : Option α) : a.or (a.or b) = a.or b := by
  cases a <;> rfl

theorem getD_again (a : Option α) (b : α) : a.getD (a.getD b) = a.getD b := by
  cases a <;> rfl

theorem or_congr (a b : Option α) {x y : Option α} (h : a.or x = a.or y) :
    a.or (b.or x) = a.or (b.or y) := by
  cases a with
  | none => exact congrArg b.or h
  | some => rfl

theorem getD_congr (a b : Option α) {x y : α} (h : a.getD x = a.getD y) :
    a.getD (b.getD x) = a.getD (b.getD y) := by
  cases a with
  | none => exact congrArg b.getD h
  | some => rfl

end Options

/-- To load a task twice with the same change is to load it once. -/
theorem reload_reload (c : TaskChange) (t : Task) : c.reload (c.reload t) = c.reload t := by
  simp [reload, apply, toStatus, or_again, getD_again]

/-- A change sets each field or leaves it alone, so what it leaves alone does not depend on what it
sets, also after another change. -/
theorem reload_congr (c d : TaskChange) {t u : Task} (h : c.reload t = c.reload u) :
    c.reload (d.reload t) = c.reload (d.reload u) := by
  simp only [reload, apply, toStatus, Option.none_or, Option.getD_none, Option.getD_some,
    Task.mk.injEq] at h ⊢
  obtain ⟨hid, htemplate, htype, hdbrps, hscript, -, hvars⟩ := h
  exact ⟨hid, or_congr _ _ htemplate, or_congr _ _ htype, getD_congr _ _ hdbrps,
    or_congr _ _ hscript, trivial, getD_congr _ _ hvars⟩

end TaskChange

/-! ## Parts of a store -/

/-- One of the lists of a store, with the edits that pushes make there. -/
structure Part (κ α : Type) [DecidableEq κ] where
  elements : Store → List α
  keyOf : α → κ
  edit? : Push → Option (Edit κ α)
  elements_apply : ∀ s p, elements (p.apply s) =
    (edit? p).elim (elements s) (·.apply keyOf (elements s))
  isKnown : ∀ s p, ∀ e ∈ edit? p, p.isKnown s = e.finds keyOf (elements s)
  lawful : ∀ p, ∀ e ∈ edit? p, e.Lawful keyOf
  overrides : ∀ p q, ∀ e ∈ edit? p, ∀ d ∈ edit? q, e.Overrides d

namespace Part

/-- The tasks of a store. -/
def tasks : Part String Task where
  elements := Store.tasks
  keyOf := Task.id
  edit? := Push.taskEdit?
  elements_apply _ _ := rfl
  isKnown s p e he := by
    cases p with
    | task id c hc =>
      cases he
      exact Push.isKnown_task s id c hc
    | template | handler => cases he
  lawful p e he := by
    cases p with
    | task id c hc =>
      cases he
      exact ⟨rfl, fun _ hx => hx, c.reload_reload⟩
    | template | handler => cases he
  overrides p q e he d hd := by
    cases p with
    | task id c hc =>
      cases q with
      | task id' c' hc' =>
        cases he
        cases hd
        exact fun _ _ => c.reload_congr c'
      | template | handler => cases hd
    | template | handler => cases he

/-- The templates of a store. -/
def templates : Part String Template where
  elements := Store.templates
  keyOf := Template.id
  edit? := Push.templateEdit?
  elements_apply _ _ := rfl
  isKnown s p e he := by
    cases p with
    | template t =>
      cases he
      exact Push.isKnown_template s t
    | task | handler => cases he
  lawful p e he := by
    cases p with
    | template t =>
      cases he
      exact ⟨rfl, fun _ _ => rfl, fun _ => rfl⟩
    | task | handler => cases he
  overrides p q e he d hd := by
    cases p with
    | template t =>
      cases he
      exact fun _ _ _ => rfl
    | task | handler => cases he

/-- The handlers of a store. -/
def handlers : Part (String × String) Handler where
  elements := Store.handlers
  keyOf := Handler.key
  edit? := Push.handlerEdit?
  elements_apply _ _ := rfl
  isKnown s p e he := by
    cases p with
    | handler h =>
      cases he
      exact Push.isKnown_handler s h
    | task | template => cases he
  lawful p e he := by
    cases p with
    | handler h =>
      cases he
      exact ⟨rfl, fun _ _ => rfl, fun _ => rfl⟩
    | task | template => cases he
  overrides p q e he d hd := by
    cases p with
    | handler h =>
      cases he
      exact fun _ _ _ => rfl
    | task | template => cases he

variable {κ α : Type} [DecidableEq κ] (part : Part κ α)

/-- The edits that pushes make, one after another. -/
def edits (ps : List Push) : List (Edit κ α) := ps.filterMap part.edit?

/-- A row of pushes is a row of edits on each of the three lists. -/
theorem elements_applyAll (s : Store) (ps : List Push) :
    part.elements (Push.applyAll s ps) =
      Edit.applyAll part.keyOf (part.edits ps) (part.elements s) := by
  induction ps generalizing s with
  | nil => rfl
  | cons p ps ih =>
    refine (ih (p.apply s)).trans ?_
    rw [part.elements_apply, edits, edits, List.filterMap_cons]
    cases part.edit? p <;> rfl

/-- All these edits keep keys, and are done once they are done. -/
theorem lawful_edits (ps : List Push) : ∀ e ∈ part.edits ps, e.Lawful part.keyOf := by
  intro e he
  obtain ⟨p, -, hp⟩ := List.mem_filterMap.1 he
  exact part.lawful p e hp

/-- A later edit overrides what an earlier one has set. -/
theorem overrides_edits (ps : List Push) :
    ∀ e ∈ part.edits ps, ∀ d ∈ part.edits ps, e.Overrides d := by
  intro e he d hd
  obtain ⟨p, -, hp⟩ := List.mem_filterMap.1 he
  obtain ⟨q, -, hq⟩ := List.mem_filterMap.1 hd
  exact part.overrides p q e hp d hq

/-- Pushes that are not about a key leave what has it alone. -/
theorem find?_applyAll {ps : List Push} {k : κ} (h : ∀ p ∈ ps, ∀ e ∈ part.edit? p, k ≠ e.key)
    (s : Store) :
    (part.elements (Push.applyAll s ps)).find? (fun x => part.keyOf x = k) =
      (part.elements s).find? fun x => part.keyOf x = k := by
  rw [elements_applyAll]
  refine Edit.find?_applyAll (part.lawful_edits ps) (fun e he => ?_) _
  obtain ⟨p, hp, hedit⟩ := List.mem_filterMap.1 he
  exact h p hp e hedit

end Part

/-! ## What pushes leave alone, and what they leave in the log -/

namespace Push

/-- Pushes of other tasks leave a task alone. -/
theorem findTask?_applyAll {ps : List Push} {id : String}
    (h : ∀ p ∈ ps, p.kind = .task → p.id ≠ id) (s : Store) :
    (applyAll s ps).findTask? id = s.findTask? id := by
  rw [Store.findTask?_eq, Store.findTask?_eq]
  refine Part.tasks.find?_applyAll (fun p hp e he => ?_) s
  cases p with
  | task id' c hc =>
    cases he
    exact (h _ hp rfl).symm
  | template | handler => cases he

/-- Pushes of other templates leave a template alone. -/
theorem findTemplate?_applyAll {ps : List Push} {id : String}
    (h : ∀ p ∈ ps, p.kind = .template → p.id ≠ id) (s : Store) :
    (applyAll s ps).findTemplate? id = s.findTemplate? id := by
  rw [Store.findTemplate?_eq, Store.findTemplate?_eq]
  refine Part.templates.find?_applyAll (fun p hp e he => ?_) s
  cases p with
  | template t =>
    cases he
    exact (h _ hp rfl).symm
  | task | handler => cases he

/-- Pushes of other handlers leave a handler alone. -/
theorem findHandler?_applyAll {ps : List Push} {topic id : String}
    (h : ∀ g, handler g ∈ ps → g.key ≠ (topic, id)) (s : Store) :
    (applyAll s ps).findHandler? topic id = s.findHandler? topic id := by
  rw [Store.findHandler?_eq, Store.findHandler?_eq]
  refine Part.handlers.find?_applyAll (fun p hp e he => ?_) s
  cases p with
  | handler g =>
    cases he
    exact (h g hp).symm
  | task | template => cases he

/-- Each push is reported under its kind and id, in order. -/
theorem map_loadedAll (s : Store) (ps : List Push) :
    (loadedAll s ps).map (fun l => (l.kind, l.id)) = ps.map fun p => (p.kind, p.id) := by
  induction ps generalizing s with
  | nil => rfl
  | cons p ps ih =>
    rw [loadedAll, List.map_cons, ih (p.apply s)]
    rfl

/-- Every push is reported. -/
theorem exists_loaded {ps : List Push} {p : Push} (h : p ∈ ps) (s : Store) :
    ∃ l ∈ loadedAll s ps, l.kind = p.kind ∧ l.id = p.id := by
  have hmem : (p.kind, p.id) ∈ (loadedAll s ps).map fun l => (l.kind, l.id) := by
    rw [map_loadedAll]
    exact List.mem_map_of_mem h
  obtain ⟨l, hl, heq⟩ := List.mem_map.1 hmem
  exact ⟨l, hl, (Prod.ext_iff.1 heq).1, (Prod.ext_iff.1 heq).2⟩

/-- The calls noted are those of the pushes, in order. -/
theorem calls_applyAll (s : Store) (ps : List Push) :
    (applyAll s ps).calls =
      s.calls ++ (List.zipWith (fun p l => p.calls l.action) ps (loadedAll s ps)).flatten := by
  induction ps generalizing s with
  | nil => exact (List.append_nil _).symm
  | cons p ps ih =>
    have hhead : (p.apply s).calls = s.calls ++ p.calls (p.action s) := rfl
    refine (ih (p.apply s)).trans ?_
    rw [hhead, loadedAll, List.zipWith_cons_cons, List.flatten_cons, List.append_assoc]
    rfl

end Push

/-! ## Why files fail -/

/-- The error is not one of the service. -/
def LoadError.OfFile (e : LoadError) : Prop := ∀ cause, e ≠ .service cause

/-- What is wrong with a variable of the task `id`: its type is not the declared one, or its value
is not of its type. -/
inductive LoadError.OfVars (id : String) : LoadError → Prop where
  | type (name : String) (expected found : VarType) :
      OfVars id (.varTypeMismatch id name expected found)
  | value (name : String) (type : VarType) : OfVars id (.invalidVarValue id name type)

theorem LoadError.OfVars.ofFile {id : String} {e : LoadError} (h : e.OfVars id) : e.OfFile := by
  cases h <;> nofun

namespace Load

variable {fs : FileSystem} {path : String} {e : LoadError}

/-- A variable fails its check for its type or for its value. -/
theorem ofVars_of_checkVar {id name : String} {template : Option Program} {v : Var}
    (h : checkVar id template name v = .error e) : e.OfVars id := by
  unfold checkVar at h
  repeat' split at h
  all_goals
    cases h
    try constructor

/-- So do variables one after another. -/
theorem ofVars_of_checkVars {id : String} {template : Option Program} {vs : List (String × Var)}
    (h : checkVars id template vs = .error e) : e.OfVars id := by
  induction vs with
  | nil => cases h
  | cons v vs ih =>
    obtain ⟨name, v⟩ := v
    rw [checkVars] at h
    split at h
    · next hv =>
      cases h
      exact ofVars_of_checkVar hv
    · exact ih h

theorem map_eq_error {α β ε : Type} {x : Except ε α} {f : α → β} {e : ε} (h : x.map f = .error e) :
    x = .error e := by
  cases x with
  | error e' =>
    cases h
    rfl
  | ok a => cases h

/-- The files that a load comes to are those of subdirectories that can be listed. -/
theorem mem_upToFault {phases : List (Except LoadError (List Item))} {i : Item}
    (h : i ∈ (upToFault phases).1) : ∃ items, .ok items ∈ phases ∧ i ∈ items := by
  induction phases with
  | nil => cases h
  | cons phase phases ih =>
    cases phase with
    | error e => cases h
    | ok items =>
      rcases List.mem_append.1 h with h | h
      · exact ⟨items, by simp, h⟩
      · obtain ⟨items', hitems, hi⟩ := ih h
        exact ⟨items', by simp [hitems], hi⟩

/-- The failures of some files are the errors of those that hold no push. -/
theorem mem_failures {items : List Item} {f : String × LoadError} :
    f ∈ failures items ↔ ⟨f.1, .error f.2⟩ ∈ items := by
  rw [failures, List.mem_filterMap]
  constructor
  · rintro ⟨⟨path, content⟩, hi, hf⟩
    cases content with
    | ok p => cases hf
    | error e =>
      cases hf
      exact hi
  · exact fun h => ⟨_, h, rfl⟩

section Files

variable [Libraries]

/-- A script that cannot be read is reported with the fault. -/
theorem readScript_unreadable {fault : ReadFault} (h : fs.readText path = .error fault) :
    readScript fs path = .error (.unreadable path fault) := by
  rw [readScript, h]
  rfl

/-- A script that is malformed is reported with the error of the parser. -/
theorem readScript_malformed {text : String} {cause : SyntaxError}
    (h : fs.readText path = .ok text) (hparse : Program.parse text = .error cause) :
    readScript fs path = .error (.malformedScript path cause) := by
  rw [readScript, h]
  simp only [LoadError.ofRead, bind, Except.bind, hparse]
  rfl

/-- A script that is well formed has to do exactly one of the two things that a task can do. -/
theorem readScript_parsed {text : String} {p : Program} (h : fs.readText path = .ok text)
    (hparse : Program.parse text = .ok p) :
    readScript fs path =
      if p.taskType = .invalid then .error (.invalidTaskType (Path.stem path))
      else .ok (text, p) := by
  rw [readScript, h]
  simp only [LoadError.ofRead, bind, Except.bind, hparse]
  split <;> rfl

/-- A script fails for a reason of its own, never for one of the service. -/
theorem ofFile_of_readScript (h : readScript fs path = .error e) : e.OfFile := by
  cases hread : fs.readText path with
  | error fault =>
    rw [readScript_unreadable hread] at h
    cases h
    nofun
  | ok text =>
    cases hparse : Program.parse text with
    | error cause =>
      rw [readScript_malformed hread hparse] at h
      cases h
      nofun
    | ok p =>
      rw [readScript_parsed hread hparse] at h
      split at h
      · cases h
        nofun
      · cases h

theorem ofFile_of_decode {α : Type} {d : Wire.Decoder α} {text : String}
    (h : decode d path text = .error e) : e.OfFile := by
  unfold decode at h
  repeat' split at h
  all_goals
    cases h
    try nofun

/-- And so does a document. -/
theorem ofFile_of_readDocument {α : Type} {d : Wire.Decoder α}
    (h : readDocument d fs path = .error e) : e.OfFile := by
  unfold readDocument at h
  cases hread : fs.readText path with
  | error fault =>
    rw [hread] at h
    cases h
    nofun
  | ok text =>
    rw [hread] at h
    simp only [LoadError.ofRead, bind, Except.bind] at h
    exact ofFile_of_decode h

theorem readVars_undecoded {ts : Templates} (h : readDocument TaskVars.decode fs path = .error e) :
    readVars fs ts path = .error e := by
  rw [readVars, h]
  rfl

/-- Variables are checked once their document could be decoded. -/
theorem readVars_decoded {v : TaskVars} (h : readDocument TaskVars.decode fs path = .ok v)
    (ts : Templates) :
    readVars fs ts path =
      (checkVars (Path.stem path) (Wire.lookup? v.templateId ts) v.vars).map fun _ => v := by
  rw [readVars, h]
  rfl

/-- Variables fail for a reason of their own as well. -/
theorem ofFile_of_readVars {ts : Templates} (h : readVars fs ts path = .error e) : e.OfFile := by
  cases hv : readDocument TaskVars.decode fs path with
  | error e' =>
    rw [readVars_undecoded hv] at h
    cases h
    exact ofFile_of_readDocument hv
  | ok v =>
    rw [readVars_decoded hv] at h
    cases hcheck : checkVars (Path.stem path) (Wire.lookup? v.templateId ts) v.vars with
    | error e' =>
      rw [hcheck] at h
      cases h
      exact (ofVars_of_checkVars hcheck).ofFile
    | ok u =>
      rw [hcheck] at h
      cases h

/-- The files of a plan, by the subdirectory that they stand in. -/
inductive InPlan (fs : FileSystem) (c : LoadConfig) : Item → Prop where
  | script {paths : List String} {path : String} (hfiles : c.taskFiles fs = .ok paths)
      (hpath : path ∈ paths) : InPlan fs c (.ofFile (scriptPush fs) path)
  | template {scripts documents : List String} {path : String}
      (hfiles : c.templateFiles fs = .ok (scripts, documents)) (hpath : path ∈ scripts) :
      InPlan fs c (.ofFile (templatePush fs) path)
  | vars {scripts documents : List String} {path : String}
      (hfiles : c.templateFiles fs = .ok (scripts, documents)) (hpath : path ∈ documents) :
      InPlan fs c (.ofFile (varsPush fs (collect fs [] scripts)) path)
  | handler {paths : List String} {path : String} (hfiles : c.handlerFiles fs = .ok paths)
      (hpath : path ∈ paths) : InPlan fs c (.ofFile (handlerPush fs) path)

/-- Each file of a plan stands in one of the three subdirectories. -/
theorem inPlan_of_mem {c : LoadConfig} {i : Item} (hi : i ∈ (plan fs c).1) : InPlan fs c i := by
  obtain ⟨items, hitems, hi⟩ := mem_upToFault hi
  simp only [phases, List.mem_cons, List.not_mem_nil, or_false] at hitems
  rcases hitems with h | h | h
  · cases hfiles : c.taskFiles fs with
    | error e' => rw [hfiles] at h; cases h
    | ok paths =>
      rw [hfiles] at h
      cases h
      obtain ⟨path, hpath, rfl⟩ := List.mem_map.1 hi
      exact .script hfiles hpath
  · cases hfiles : c.templateFiles fs with
    | error e' => rw [hfiles] at h; cases h
    | ok files =>
      rw [hfiles] at h
      cases h
      rcases List.mem_append.1 hi with hi | hi
      · obtain ⟨path, hpath, rfl⟩ := List.mem_map.1 hi
        exact .template hfiles hpath
      · obtain ⟨path, hpath, rfl⟩ := List.mem_map.1 hi
        exact .vars hfiles hpath
  · cases hfiles : c.handlerFiles fs with
    | error e' => rw [hfiles] at h; cases h
    | ok paths =>
      rw [hfiles] at h
      cases h
      obtain ⟨path, hpath, rfl⟩ := List.mem_map.1 hi
      exact .handler hfiles hpath

/-- No file of a plan fails for a reason that lies with a service. -/
theorem ofFile_of_mem_plan {c : LoadConfig} {i : Item} (hi : i ∈ (plan fs c).1)
    (he : i.content = .error e) : e.OfFile := by
  cases inPlan_of_mem hi with
  | script | template => exact ofFile_of_readScript (map_eq_error he)
  | vars => exact ofFile_of_readVars (map_eq_error he)
  | handler => exact ofFile_of_readDocument (map_eq_error he)

end Files

/-! ## The effects of a load -/

/-- A load that comes to its end has done this to a store: no request has failed; the calls noted
are those of the loaded files in the order of the report; and whatever no loaded file names is as
before. -/
theorem run_effects [Libraries] {c : LoadConfig} {s s' : Store} {r : LoadReport}
    (h : run Store.service fs c s = .ok r s') :
    ∃ items, plan fs c = (items, none) ∧ r.failed = failures items ∧
      (∀ f ∈ r.failed, f.2.OfFile) ∧
      r.loaded.map (fun l => (l.kind, l.id)) = (pushes items).map (fun p => (p.kind, p.id)) ∧
      s'.calls = s.calls ++
        (List.zipWith (fun p l => p.calls l.action) (pushes items) r.loaded).flatten ∧
      (∀ id, (∀ l ∈ r.loaded, l.kind = .task → l.id ≠ id) → s'.findTask? id = s.findTask? id) ∧
      (∀ id, (∀ l ∈ r.loaded, l.kind = .template → l.id ≠ id) →
        s'.findTemplate? id = s.findTemplate? id) ∧
      ∀ topic id, (∀ g, Push.handler g ∈ pushes items → g.key ≠ (topic, id)) →
        s'.findHandler? topic id = s.findHandler? topic id := by
  obtain ⟨items, hplan, rfl, rfl⟩ := run_store_ok_iff.1 h
  refine ⟨items, hplan, rfl, fun f hf => ?_, Push.map_loadedAll s _, Push.calls_applyAll s _,
    fun id hid => ?_, fun id hid => ?_, fun topic id hid => Push.findHandler?_applyAll hid s⟩
  · have hmem : ⟨f.1, .error f.2⟩ ∈ (plan fs c).1 := by
      rw [hplan]
      exact mem_failures.1 hf
    exact ofFile_of_mem_plan hmem rfl
  · refine Push.findTask?_applyAll (fun p hp hkind => ?_) s
    obtain ⟨l, hl, hlk, hli⟩ := Push.exists_loaded hp s
    exact hli ▸ hid l hl (hlk.trans hkind)
  · refine Push.findTemplate?_applyAll (fun p hp hkind => ?_) s
    obtain ⟨l, hl, hlk, hli⟩ := Push.exists_loaded hp s
    exact hli ▸ hid l hl (hlk.trans hkind)

/-- A directory with a task script, a template with the variables of one task, and a document that
is no handler. -/
def sampleFiles : FileSystem where
  root := .dir [("d", .dir [
    ("tasks", .dir [("a.tick", .file "stream".toUTF8)]),
    ("templates", .dir [("T.tick", .file "batch".toUTF8),
      ("v.json", .file "\x7b\"template-id\":\"T\"\x7d".toUTF8)]),
    ("handlers", .dir [("h.json", .file "\x7b\x7d".toUTF8)])])]
  current := "/"

section Sample

attribute [local instance] libraries

/-- One task is loaded again, a template and a task are new, and a task that no file names stays. -/
theorem run_effects_sample : ∃ r s',
    run Store.service sampleFiles ⟨true, "/d"⟩ { tasks := [.blank "a", .blank "b"] } = .ok r s' ∧
    r.loaded = [⟨.task, "a", .updated⟩, ⟨.template, "T", .created⟩, ⟨.task, "v", .created⟩] ∧
    r.failed = [("/d/handlers/h.json", .malformedJson "/d/handlers/h.json")] ∧
    s'.calls = [.updateTask "a" none, .updateTask "a" (some .disabled),
      .updateTask "a" (some .enabled), .createTemplate "T", .createTask "v"] ∧
    (∀ f ∈ r.failed, f.2.OfFile) ∧ s'.findTask? "b" = some (.blank "b") := by
  have hrun : endsIn (fun r s' => decide (
      r.loaded = [⟨.task, "a", .updated⟩, ⟨.template, "T", .created⟩, ⟨.task, "v", .created⟩] ∧
      r.failed = [("/d/handlers/h.json", .malformedJson "/d/handlers/h.json")] ∧
      s'.calls = [.updateTask "a" none, .updateTask "a" (some .disabled),
        .updateTask "a" (some .enabled), .createTemplate "T", .createTask "v"]))
      (run Store.service sampleFiles ⟨true, "/d"⟩ { tasks := [.blank "a", .blank "b"] }) =
      true := by
    decide +kernel
  obtain ⟨r, s', h, hends⟩ := exists_of_endsIn hrun
  obtain ⟨hloaded, hfailed, hcalls⟩ := of_decide_eq_true hends
  obtain ⟨items, -, -, hfiles, -, -, htasks, -⟩ := run_effects h
  refine ⟨r, s', h, hloaded, hfailed, hcalls, hfiles, ?_⟩
  rw [htasks "b" (by rw [hloaded]; decide)]
  rfl

end Sample

end Load

end Tickscript
