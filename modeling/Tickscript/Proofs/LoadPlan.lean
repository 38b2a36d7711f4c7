import Tickscript.Proofs.Pushes

/-!
# A load as a plan

The files of a load directory, in the order in which they are loaded, and what is pushed from each
of them make up a *plan*. It is known before anything is asked of a service (`Load.plan`). Loading
a directory into a store carries the plan out: `Load.run_store_ok` and `Load.run_store_error` give
the report and the store afterwards as functions of the plan and the store before.
-/

namespace Tickscript

namespace Push

/-- The store after pushes, one after another. -/
def applyAll (s : Store) (ps : List Push) : Store := ps.foldl apply s

/-- How pushes to a store are reported, one after another. -/
def loadedAll : Store → List Push → List Loaded
  | _, [] => []
  | s, p :: ps => p.loaded s :: loadedAll (p.apply s) ps

/-- Pushes are carried out one after another. -/
theorem applyAll_append (s : Store) (ps qs : List Push) :
    applyAll s (ps ++ qs) = applyAll (applyAll s ps) qs := by
  simp [applyAll]

/-- What is loaded later depends on what the store has by then. -/
theorem loadedAll_append (s : Store) (ps qs : List Push) :
    loadedAll s (ps ++ qs) = loadedAll s ps ++ loadedAll (applyAll s ps) qs := by
  induction ps generalizing s with
  | nil => rfl
  | cons p ps ih =>
    rw [List.cons_append, loadedAll, ih]
    rfl

end Push

theorem LoadReport.append_assoc (r s t : LoadReport) : r ++ s ++ t = r ++ (s ++ t) := by
  show append (append r s) t = append r (append s t)
  simp [append]

namespace Load

/-! ## Files -/

/-- A file of a load directory, with what is pushed from it or why it fails. -/
structure Item where
  path : String
  content : Except LoadError Push

namespace Item

/-- A file with what is found in it. -/
def ofFile (content : String → Except LoadError Push) (path : String) : Item := ⟨path, content path⟩

/-- What is pushed from the file. -/
def push? (i : Item) : Option Push := i.content.toOption

/-- The file and its error, if it fails. -/
def failure? (i : Item) : Option (String × LoadError) :=
  match i.content with
  | .ok _ => none
  | .error e => some (i.path, e)

end Item

/-- What is pushed from some files. -/
def pushes (items : List Item) : List Push := items.filterMap Item.push?

/-- The files that fail, with their errors. -/
def failures (items : List Item) : List (String × LoadError) := items.filterMap Item.failure?

/-! ## Carrying files out -/

/-- What is reported on files that are pushed to a store. -/
def report (s : Store) (items : List Item) : LoadReport :=
  ⟨Push.loadedAll s (pushes items), failures items⟩

/-- The store after files have been pushed to it. -/
def storeAfter (s : Store) (items : List Item) : Store := Push.applyAll s (pushes items)

theorem storeAfter_append (s : Store) (xs ys : List Item) :
    storeAfter s (xs ++ ys) = storeAfter (storeAfter s xs) ys := by
  rw [storeAfter, pushes, List.filterMap_append, Push.applyAll_append]
  rfl

/-- A report on files is the report on some, and then on the others from the store after them. -/
theorem report_append (s : Store) (xs ys : List Item) :
    report s (xs ++ ys) = report s xs ++ report (storeAfter s xs) ys := by
  rw [report, pushes, failures, List.filterMap_append, List.filterMap_append, Push.loadedAll_append]
  rfl

theorem report_cons_ok (s : Store) (path : String) (p : Push) (items : List Item) :
    report s (⟨path, .ok p⟩ :: items) = ⟨[p.loaded s], []⟩ ++ report (p.apply s) items := rfl

theorem report_cons_error (s : Store) (path : String) (e : LoadError) (items : List Item) :
    report s (⟨path, .error e⟩ :: items) = ⟨[], [(path, e)]⟩ ++ report s items := rfl

/-- Whether a load comes to its end with a report and a store of which `p` holds. -/
def endsIn (p : LoadReport → Store → Bool) : EStateM.Result LoadError Store LoadReport → Bool
  | .ok r s => p r s
  | .error _ _ => false

theorem exists_of_endsIn {p : LoadReport → Store → Bool}
    {x : EStateM.Result LoadError Store LoadReport} (h : endsIn p x = true) :
    ∃ r s, x = .ok r s ∧ p r s = true := by
  cases x with
  | ok r s => exact ⟨r, s, rfl, h⟩
  | error e s => cases h

/-- What follows a success goes on where the success ended. -/
theorem bind_ok {σ α β : Type} {m : Load σ α} {f : α → Load σ β} {s s' : σ} {a : α}
    (h : m s = .ok a s') : (m >>= f) s = f a s' := by
  show EStateM.bind m f s = f a s'
  rw [EStateM.bind, h]

section Steps

variable {σ : Type} {load : String → Load σ Loaded} {path : String} {paths : List String}
  {s s₁ s₂ : σ} {l : Loaded} {e : LoadError} {r : LoadReport}

/-- A file that is loaded comes first in the report. -/
theorem each_cons_ok (h : load path s = .ok l s₁) (hrest : each load paths s₁ = .ok r s₂) :
    each load (path :: paths) s = .ok (⟨[l], []⟩ ++ r) s₂ := by
  simp only [each, h]
  show EStateM.bind (each load paths) _ s₁ = _
  rw [EStateM.bind, hrest]
  rfl

/-- A file that fails is reported, and the others are loaded all the same. -/
theorem each_cons_error (h : load path s = .error e s₁) (hrest : each load paths s₁ = .ok r s₂) :
    each load (path :: paths) s = .ok (⟨[], [(path, e)]⟩ ++ r) s₂ := by
  simp only [each, h]
  show EStateM.bind (each load paths) _ s₁ = _
  rw [EStateM.bind, hrest]
  rfl

end Steps

/-- Files whose loads are pushes leave a store as their plan says, and the same report. -/
theorem each_store {load : String → Load Store Loaded} {content : String → Except LoadError Push}
    (hload : ∀ path, load path = push Store.service (content path)) (paths : List String)
    (s : Store) :
    each load paths s = .ok (report s (paths.map (.ofFile content)))
      (storeAfter s (paths.map (.ofFile content))) := by
  induction paths generalizing s with
  | nil => rfl
  | cons path paths ih =>
    rw [List.map_cons]
    cases hc : content path with
    | error e =>
      have hitem : Item.ofFile content path = ⟨path, .error e⟩ := by rw [Item.ofFile, hc]
      have hpath : load path s = .error e s := by rw [hload, hc, push_error]
      rw [each_cons_error hpath (ih s), hitem, report_cons_error]
      rfl
    | ok p =>
      have hitem : Item.ofFile content path = ⟨path, .ok p⟩ := by rw [Item.ofFile, hc]
      have hpath : load path s = .ok (p.loaded s) (p.apply s) := by
        rw [hload, hc, push_ok, p.run_store]
      rw [each_cons_ok hpath (ih (p.apply s)), hitem, report_cons_ok]
      rfl

variable [Libraries]

/-! ## Plans -/

/-- The programs of the templates that are pushed from some scripts, the latest first. -/
def collect (fs : FileSystem) (ts : Templates) : List String → Templates
  | [] => ts
  | path :: paths =>
    match readScript fs path with
    | .ok (_, p) => collect fs ((Path.stem path, p) :: ts) paths
    | .error _ => collect fs ts paths

/-- The files of each subdirectory in turn, or why it cannot be listed. -/
def phases (fs : FileSystem) (c : LoadConfig) : List (Except LoadError (List Item)) :=
  [(c.taskFiles fs).map fun paths => paths.map (.ofFile (scriptPush fs)),
    (c.templateFiles fs).map fun (scripts, documents) =>
      scripts.map (.ofFile (templatePush fs)) ++
        documents.map (.ofFile (varsPush fs (collect fs [] scripts))),
    (c.handlerFiles fs).map fun paths => paths.map (.ofFile (handlerPush fs))]

/-- All files up to the first subdirectory that cannot be listed, and the error of that one. -/
def upToFault : List (Except LoadError (List Item)) → List Item × Option LoadError
  | [] => ([], none)
  | .error e :: _ => ([], some e)
  | .ok items :: rest => (items ++ (upToFault rest).1, (upToFault rest).2)

/-- The files that a load comes to, and the error that ends it before the last, if there is one. -/
def plan (fs : FileSystem) (c : LoadConfig) : List Item × Option LoadError :=
  upToFault (phases fs c)

/-! ## Carrying a plan out -/

section Templates

variable {σ : Type} {svc : Service σ} {fs : FileSystem} {ts ts' : Templates} {path : String}
  {paths : List String} {s s₁ s₂ : σ} {l : Loaded} {e : LoadError} {r : LoadReport} {p : Program}

theorem eachTemplate_cons_ok (h : templateScript svc fs path s = .ok (l, p) s₁)
    (hrest : eachTemplate svc fs ((l.id, p) :: ts) paths s₁ = .ok (r, ts') s₂) :
    eachTemplate svc fs ts (path :: paths) s = .ok (⟨[l], []⟩ ++ r, ts') s₂ := by
  simp only [eachTemplate, h]
  show EStateM.bind (eachTemplate svc fs _ paths) _ s₁ = _
  rw [EStateM.bind, hrest]
  rfl

theorem eachTemplate_cons_error (h : templateScript svc fs path s = .error e s₁)
    (hrest : eachTemplate svc fs ts paths s₁ = .ok (r, ts') s₂) :
    eachTemplate svc fs ts (path :: paths) s = .ok (⟨[], [(path, e)]⟩ ++ r, ts') s₂ := by
  simp only [eachTemplate, h]
  show EStateM.bind (eachTemplate svc fs _ paths) _ s₁ = _
  rw [EStateM.bind, hrest]
  rfl

end Templates

/-- The templates that a load collects are those that are pushed. -/
theorem eachTemplate_store (fs : FileSystem) (ts : Templates) (paths : List String) (s : Store) :
    eachTemplate Store.service fs ts paths s =
      .ok (report s (paths.map (.ofFile (templatePush fs))), collect fs ts paths)
        (storeAfter s (paths.map (.ofFile (templatePush fs)))) := by
  induction paths generalizing ts s with
  | nil => rfl
  | cons path paths ih =>
    rw [List.map_cons]
    cases hscript : readScript fs path with
    | error e =>
      have hitem : Item.ofFile (templatePush fs) path = ⟨path, .error e⟩ := by
        rw [Item.ofFile, templatePush, hscript]
        rfl
      have hpath : templateScript Store.service fs path s = .error e s := by
        rw [templateScript_eq, hscript]
        rfl
      have hcollect : collect fs ts (path :: paths) = collect fs ts paths := by
        simp only [collect, hscript]
      rw [eachTemplate_cons_error hpath (ih ts s), hitem, report_cons_error, hcollect]
      rfl
    | ok script =>
      obtain ⟨script, p⟩ := script
      have hcontent :
          templatePush fs path = .ok (.template ⟨Path.stem path, p.taskType, script⟩) := by
        rw [templatePush, hscript]
        rfl
      have hcollect :
          collect fs ts (path :: paths) = collect fs ((Path.stem path, p) :: ts) paths := by
        simp only [collect, hscript]
      generalize Path.stem path = id at hcontent hcollect
      have hitem : Item.ofFile (templatePush fs) path =
          ⟨path, .ok (.template ⟨id, p.taskType, script⟩)⟩ := by
        rw [Item.ofFile, hcontent]
      have hpath : templateScript Store.service fs path s =
          .ok ((Push.template ⟨id, p.taskType, script⟩).loaded s, p)
            ((Push.template ⟨id, p.taskType, script⟩).apply s) := by
        rw [templateScript_eq, hscript, hcontent]
        show EStateM.bind (push Store.service (.ok _)) _ s = _
        rw [EStateM.bind, push_ok, Push.run_store]
        rfl
      rw [eachTemplate_cons_ok hpath (ih _ _), hitem, report_cons_ok, hcollect]
      rfl

/-- Task scripts are carried out as planned. -/
theorem taskScripts_store (fs : FileSystem) (paths : List String) (s : Store) :
    each (taskScript Store.service fs) paths s =
      .ok (report s (paths.map (.ofFile (scriptPush fs))))
        (storeAfter s (paths.map (.ofFile (scriptPush fs)))) :=
  each_store (taskScript_eq Store.service fs) paths s

/-- Variables are carried out as planned, for the templates that were loaded before. -/
theorem taskVars_store (fs : FileSystem) (ts : Templates) (paths : List String) (s : Store) :
    each (taskVars Store.service fs ts) paths s =
      .ok (report s (paths.map (.ofFile (varsPush fs ts))))
        (storeAfter s (paths.map (.ofFile (varsPush fs ts)))) :=
  each_store (taskVars_eq Store.service fs ts) paths s

/-- Handlers are carried out as planned. -/
theorem handlers_store (fs : FileSystem) (paths : List String) (s : Store) :
    each (handler Store.service fs) paths s =
      .ok (report s (paths.map (.ofFile (handlerPush fs))))
        (storeAfter s (paths.map (.ofFile (handlerPush fs)))) :=
  each_store (handler_eq Store.service fs) paths s

/-- A load into a store does what its plan says. -/
theorem run_store (fs : FileSystem) (c : LoadConfig) (s : Store) :
    run Store.service fs c s =
      (plan fs c).2.elim (.ok (report s (plan fs c).1) (storeAfter s (plan fs c).1))
        fun e => .error e (storeAfter s (plan fs c).1) := by
  -- the plan is cut where a listing fails, so there is a case for each of the three listings
  cases htasks : c.taskFiles fs with
  | error e =>
    have hplan : plan fs c = ([], some e) := by
      simp [plan, phases, upToFault, htasks, Except.map]
    rw [run, htasks, hplan]
    rfl
  | ok tasks =>
    cases htemplates : c.templateFiles fs with
    | error e =>
      have hplan : plan fs c = (tasks.map (.ofFile (scriptPush fs)), some e) := by
        simp [plan, phases, upToFault, htasks, htemplates, Except.map]
      rw [run, htasks, htemplates, hplan]
      show (each _ tasks >>= _) s = _
      rw [bind_ok (taskScripts_store fs tasks s)]
      rfl
    | ok files =>
      obtain ⟨scripts, documents⟩ := files
      rw [run, htasks, htemplates]
      show (each _ tasks >>= _) s = _
      rw [bind_ok (taskScripts_store fs tasks s)]
      show (eachTemplate _ _ _ scripts >>= _) _ = _
      rw [bind_ok (eachTemplate_store fs [] scripts _)]
      show (each _ documents >>= _) _ = _
      rw [bind_ok (taskVars_store fs _ documents _)]
      cases hhandlers : c.handlerFiles fs with
      | error e =>
        have hplan : plan fs c = (tasks.map (.ofFile (scriptPush fs)) ++
            (scripts.map (.ofFile (templatePush fs)) ++
              documents.map (.ofFile (varsPush fs (collect fs [] scripts)))), some e) := by
          simp [plan, phases, upToFault, htasks, htemplates, hhandlers, Except.map]
        rw [hplan]
        simp only [Option.elim, storeAfter_append]
        rfl
      | ok handlers =>
        have hplan : plan fs c = (tasks.map (.ofFile (scriptPush fs)) ++
            (scripts.map (.ofFile (templatePush fs)) ++
              (documents.map (.ofFile (varsPush fs (collect fs [] scripts))) ++
                handlers.map (.ofFile (handlerPush fs)))), none) := by
          simp [plan, phases, upToFault, htasks, htemplates, hhandlers, Except.map]
        rw [hplan]
        show (each _ handlers >>= _) _ = _
        rw [bind_ok (handlers_store fs handlers _)]
        simp only [Option.elim, storeAfter_append, report_append, ← LoadReport.append_assoc]
        rfl

/-- A load ends well exactly if its plan has no fault, and then plan, report and store go
together. -/
theorem run_store_ok_iff {fs : FileSystem} {c : LoadConfig} {s s' : Store} {r : LoadReport} :
    run Store.service fs c s = .ok r s' ↔
      ∃ items, plan fs c = (items, none) ∧ r = report s items ∧ s' = storeAfter s items := by
  rw [run_store]
  generalize plan fs c = q
  obtain ⟨items, fault⟩ := q
  cases fault with
  | none => simp [eq_comm]
  | some e => simp

/-- A load ends badly at the fault of its plan, with the files before the fault carried out. -/
theorem run_store_error_iff {fs : FileSystem} {c : LoadConfig} {s s' : Store} {e : LoadError} :
    run Store.service fs c s = .error e s' ↔
      ∃ items, plan fs c = (items, some e) ∧ s' = storeAfter s items := by
  rw [run_store]
  generalize plan fs c = q
  obtain ⟨items, fault⟩ := q
  cases fault with
  | none => simp
  | some e' => simp [eq_comm]

end Load

end Tickscript
