import Tickscript.Proofs.LoadPlan

/-!
# A load as a row of steps

Over a service that may fail, what a load pushes depends on the answers: a template that could not
be pushed does not take part in the checks of variables. What stays true is that a load takes one
file after another, pushes what it finds there, and notes the outcome (`Load.run_steps`). Whatever
one such step keeps, a whole load keeps.
-/

namespace Tickscript

theorem LoadReport.append_empty (r : LoadReport) : r ++ ({} : LoadReport) = r := by
  show append r {} = r
  simp [append]

namespace Load

variable {σ : Type}

/-- The state in which something ends, well or badly. -/
def stateOf {ε α : Type} : EStateM.Result ε σ α → σ
  | .ok _ s | .error _ s => s

/-- What is reported on a file. -/
def reportOn (path : String) : EStateM.Result LoadError σ Loaded → LoadReport
  | .ok l _ => ⟨[l], []⟩
  | .error e _ => ⟨[], [(path, e)]⟩

/-- The files that tasks are loaded from: the task scripts, and the documents with variables. -/
inductive TaskFile (fs : FileSystem) (c : LoadConfig) (path : String) : Prop where
  | script {paths : List String} (hfiles : c.taskFiles fs = .ok paths) (hpath : path ∈ paths)
  | vars {scripts documents : List String} (hfiles : c.templateFiles fs = .ok (scripts, documents))
      (hpath : path ∈ documents)

/-- A task is pushed from a file for tasks alone, and has the name of the file. -/
def Item.IsNamed (fs : FileSystem) (c : LoadConfig) (i : Item) : Prop :=
  ∀ p, i.content = .ok p → p.kind = .task → TaskFile fs c i.path ∧ p.id = Path.stem i.path

/-- From one report and state to another by pushing files. -/
inductive Steps (svc : Service σ) (fs : FileSystem) (c : LoadConfig) (r : LoadReport) (s : σ) :
    LoadReport → σ → Prop where
  | refl : Steps svc fs c r s r s
  | file {r' : LoadReport} {s' : σ} (h : Steps svc fs c r s r' s') (i : Item)
      (hi : i.IsNamed fs c) :
      Steps svc fs c r s (r' ++ reportOn i.path (push svc i.content s'))
        (stateOf (push svc i.content s'))

variable {fs : FileSystem} {c : LoadConfig}

namespace Steps

variable {svc : Service σ} {r r' r'' : LoadReport} {s s' s'' : σ}

theorem trans (h : Steps svc fs c r s r' s') (h' : Steps svc fs c r' s' r'' s'') :
    Steps svc fs c r s r'' s'' := by
  induction h' with
  | refl => exact h
  | file _ i hi ih => exact .file ih i hi

/-- One file and then others. -/
theorem head {i : Item} (hi : i.IsNamed fs c)
    (h : Steps svc fs c (r ++ reportOn i.path (push svc i.content s))
      (stateOf (push svc i.content s)) r'' s'') : Steps svc fs c r s r'' s'' :=
  .trans (.file .refl i hi) h

end Steps

/-! ## Files one after another -/

variable {svc : Service σ}

/-- A file and the files after it are reported in this order, whether it fails or not. -/
theorem each_cons {load : String → Load σ Loaded} {path : String} {paths : List String} {s s' : σ}
    {r : LoadReport} (hrest : each load paths (stateOf (load path s)) = .ok r s') :
    each load (path :: paths) s = .ok (reportOn path (load path s) ++ r) s' := by
  cases hload : load path s with
  | ok l s₁ =>
    rw [hload] at hrest
    exact each_cons_ok hload hrest
  | error e s₁ =>
    rw [hload] at hrest
    exact each_cons_error hload hrest

/-- Files that are loaded by pushes come to their end, whatever the service answers. -/
theorem each_steps {load : String → Load σ Loaded} {content : String → Except LoadError Push}
    (hload : ∀ path, load path = push svc (content path)) {paths : List String}
    (hnamed : ∀ path ∈ paths, (Item.ofFile content path).IsNamed fs c) (r : LoadReport) (s : σ) :
    ∃ r' s', each load paths s = .ok r' s' ∧ Steps svc fs c r s (r ++ r') s' := by
  induction paths generalizing r s with
  | nil => exact ⟨{}, s, rfl, by rw [LoadReport.append_empty]; exact .refl⟩
  | cons path paths ih =>
    have hpath : load path s = push svc (content path) s := by rw [hload]
    have hrest := fun p hp => hnamed p (List.mem_cons_of_mem path hp)
    obtain ⟨r', s', heach, hsteps⟩ :=
      ih hrest (r ++ reportOn path (load path s)) (stateOf (load path s))
    refine ⟨_, s', each_cons heach, ?_⟩
    rw [hpath] at hsteps ⊢
    rw [← LoadReport.append_assoc]
    exact .head (hnamed path List.mem_cons_self) hsteps

variable [Libraries]

/-! ## The names of tasks -/

/-- The task of a script has the name of the file. -/
theorem isNamed_scriptPush {path : String} (h : TaskFile fs c path) :
    (Item.ofFile (scriptPush fs) path).IsNamed fs c := by
  intro p hp _
  obtain ⟨script, -, rfl⟩ := exists_of_map_eq_ok hp
  exact ⟨h, rfl⟩

/-- A template script pushes no task. -/
theorem isNamed_templatePush (path : String) :
    (Item.ofFile (templatePush fs) path).IsNamed fs c := by
  intro p hp hkind
  obtain ⟨script, -, rfl⟩ := exists_of_map_eq_ok hp
  cases hkind

/-- The task of a document with variables has the name of the file. -/
theorem isNamed_varsPush {path : String} (h : TaskFile fs c path) (ts : Templates) :
    (Item.ofFile (varsPush fs ts) path).IsNamed fs c := by
  intro p hp _
  obtain ⟨v, -, rfl⟩ := exists_of_map_eq_ok hp
  exact ⟨h, rfl⟩

/-- A handler is no task. -/
theorem isNamed_handlerPush (path : String) :
    (Item.ofFile (handlerPush fs) path).IsNamed fs c := by
  intro p hp hkind
  obtain ⟨h, -, rfl⟩ := exists_of_map_eq_ok hp
  cases hkind

/-! ## Templates one after another -/

/-- A template script is pushed, and its program is kept if that goes well. -/
theorem templateScript_cases (svc : Service σ) (fs : FileSystem) (path : String) (s : σ) :
    (∃ l p s', push svc (templatePush fs path) s = .ok l s' ∧
      templateScript svc fs path s = .ok (l, p) s') ∨
    ∃ e s', push svc (templatePush fs path) s = .error e s' ∧
      templateScript svc fs path s = .error e s' := by
  rw [templateScript_eq]
  cases hscript : readScript fs path with
  | error e =>
    refine .inr ⟨e, s, ?_, rfl⟩
    rw [templatePush, hscript]
    rfl
  | ok script =>
    show (∃ l p s', _ ∧ EStateM.bind (push svc (templatePush fs path)) _ s = _) ∨
      ∃ e s', _ ∧ EStateM.bind (push svc (templatePush fs path)) _ s = _
    cases hpush : push svc (templatePush fs path) s with
    | ok l s' =>
      refine .inl ⟨l, script.2, s', rfl, ?_⟩
      rw [EStateM.bind, hpush]
      rfl
    | error e s' =>
      refine .inr ⟨e, s', rfl, ?_⟩
      rw [EStateM.bind, hpush]

/-- A template script and those after it are reported in this order. The templates that are known to
those after it depend on whether it fails. -/
theorem eachTemplate_cons (svc : Service σ) (fs : FileSystem) (ts : Templates) (path : String)
    (paths : List String) (s : σ) :
    ∃ known, ∀ {r ts' s'},
      eachTemplate svc fs known paths (stateOf (push svc (templatePush fs path) s)) =
        .ok (r, ts') s' →
      eachTemplate svc fs ts (path :: paths) s =
        .ok (reportOn path (push svc (templatePush fs path) s) ++ r, ts') s' := by
  rcases templateScript_cases svc fs path s with
    ⟨l, p, s₁, hpush, hscript⟩ | ⟨e, s₁, hpush, hscript⟩
  · refine ⟨(l.id, p) :: ts, fun hrest => ?_⟩
    rw [hpush] at hrest ⊢
    exact eachTemplate_cons_ok hscript hrest
  · refine ⟨ts, fun hrest => ?_⟩
    rw [hpush] at hrest ⊢
    exact eachTemplate_cons_error hscript hrest

/-- Template scripts one after another are a row of steps. -/
theorem eachTemplate_steps (svc : Service σ) (fs : FileSystem) (c : LoadConfig) (ts : Templates)
    (paths : List String) (r : LoadReport) (s : σ) :
    ∃ r' ts' s', eachTemplate svc fs ts paths s = .ok (r', ts') s' ∧
      Steps svc fs c r s (r ++ r') s' := by
  induction paths generalizing ts r s with
  | nil => exact ⟨{}, ts, s, rfl, by rw [LoadReport.append_empty]; exact .refl⟩
  | cons path paths ih =>
    obtain ⟨known, hcons⟩ := eachTemplate_cons svc fs ts path paths s
    obtain ⟨r', ts', s', hrest, hsteps⟩ :=
      ih known (r ++ reportOn path (push svc (templatePush fs path) s))
        (stateOf (push svc (templatePush fs path) s))
    refine ⟨_, ts', s', hcons hrest, ?_⟩
    rw [← LoadReport.append_assoc]
    exact .head (isNamed_templatePush path) hsteps

/-! ## Whole loads -/

/-- A load is a row of steps, also one that is ended by a subdirectory. -/
theorem run_steps (svc : Service σ) (fs : FileSystem) (c : LoadConfig) (s : σ) :
    ∃ r s', Steps svc fs c {} s r s' ∧
      (run svc fs c s = .ok r s' ∨ ∃ e, run svc fs c s = .error e s') := by
  cases htasks : c.taskFiles fs with
  | error e =>
    refine ⟨{}, s, .refl, .inr ⟨e, ?_⟩⟩
    rw [run, htasks]
    rfl
  | ok tasks =>
    obtain ⟨r₁, s₁, heach₁, hsteps₁⟩ :=
      each_steps (taskScript_eq svc fs)
        (fun _ hpath => isNamed_scriptPush (.script htasks hpath)) {} s
    cases htemplates : c.templateFiles fs with
    | error e =>
      refine ⟨_, s₁, hsteps₁, .inr ⟨e, ?_⟩⟩
      rw [run, htasks, htemplates]
      show (each _ tasks >>= _) s = _
      rw [bind_ok heach₁]
      rfl
    | ok files =>
      -- The templates come before the tasks made from them, which are read with their variables.
      obtain ⟨scripts, documents⟩ := files
      obtain ⟨r₂, ts, s₂, heach₂, hsteps₂⟩ :=
        eachTemplate_steps svc fs c [] scripts ({} ++ r₁) s₁
      obtain ⟨r₃, s₃, heach₃, hsteps₃⟩ :=
        each_steps (taskVars_eq svc fs ts)
          (fun _ hpath => isNamed_varsPush (.vars htemplates hpath) ts) ({} ++ r₁ ++ r₂) s₂
      rw [run, htasks, htemplates]
      show ∃ r s', _ ∧ ((each _ tasks >>= _) s = _ ∨ ∃ e, (each _ tasks >>= _) s = _)
      rw [bind_ok heach₁]
      show ∃ r s', _ ∧ ((eachTemplate _ _ _ scripts >>= _) s₁ = _ ∨
        ∃ e, (eachTemplate _ _ _ scripts >>= _) s₁ = _)
      rw [bind_ok heach₂]
      show ∃ r s', _ ∧ ((each _ documents >>= _) s₂ = _ ∨ ∃ e, (each _ documents >>= _) s₂ = _)
      rw [bind_ok heach₃]
      have hsteps := (hsteps₁.trans hsteps₂).trans hsteps₃
      cases hhandlers : c.handlerFiles fs with
      | error e => exact ⟨_, s₃, hsteps, .inr ⟨e, rfl⟩⟩
      | ok handlers =>
        obtain ⟨r₄, s₄, heach₄, hsteps₄⟩ :=
          each_steps (handler_eq svc fs) (fun path _ => isNamed_handlerPush path)
            ({} ++ r₁ ++ r₂ ++ r₃) s₃
        refine ⟨_, s₄, hsteps.trans hsteps₄, .inl ?_⟩
        show (each _ handlers >>= _) s₃ = _
        rw [bind_ok heach₄]
        rfl

end Load

end Tickscript
