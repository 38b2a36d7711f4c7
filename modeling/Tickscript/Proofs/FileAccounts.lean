import Tickscript.Proofs.Directories
import Tickscript.Proofs.RunningTasks

/-!
# One entry of the report for each file

A load of a validated directory comes to its end, whatever the files hold and whatever the service
answers. Its report accounts for the files: an *account* is a file and what became of it, and the
two lists of the report are the accounts that went well and those that did not, in one order
(`Load.run_accounts`).

The files are known before the load (`Tickscript.Proofs.Directories`), so all that is left to see is
that each file adds one account, also one that fails. That is the step of `Load.each` and of
`Load.eachTemplate`, and neither of them ever stops.
-/

namespace Tickscript

namespace Load

/-! ## Groups of files -/

/-- The groups of files in a load directory. -/
inductive Group where
  | tasks | templates | vars | handlers
deriving DecidableEq

namespace Group

/-- Which group comes before which. -/
def rank : Group → Nat
  | tasks => 0
  | templates => 1
  | vars => 2
  | handlers => 3

/-- The subdirectory that the files of the group are in. -/
def dir (c : LoadConfig) : Group → String
  | tasks => c.tasksDir
  | templates | vars => c.templatesDir
  | handlers => c.handlersDir

/-- The extensions that the files of the group have. -/
def extensions : Group → List String
  | tasks | templates => LoadConfig.scriptExtensions
  | vars | handlers => LoadConfig.documentExtensions

end Group

/-- A file and what became of it. -/
structure Account where
  group : Group
  path : String
  result : Except LoadError Loaded

namespace Account

/-- What was loaded from the file. -/
def loaded? (a : Account) : Option Loaded := a.result.toOption

/-- The file and its error, if it failed. -/
def failure? (a : Account) : Option (String × LoadError) :=
  match a.result with
  | .ok _ => none
  | .error e => some (a.path, e)

/-- The order of files: by their groups, and in one group by their paths. -/
def Before (a b : Account) : Prop :=
  a.group.rank < b.group.rank ∨ a.group = b.group ∧ a.path < b.path

/-- What is reported on some files. -/
def report (as : List Account) : LoadReport := ⟨as.filterMap loaded?, as.filterMap failure?⟩

/-- A report on files is the report on some and then on the others. -/
theorem report_append (as bs : List Account) : report (as ++ bs) = report as ++ report bs := by
  simp only [report, List.filterMap_append]
  rfl

end Account

/-! ## Pushes that go well -/

section Pushes

variable {σ : Type} {svc : Service σ} {s s' : σ} {l : Loaded}

theorem of_ask_bind_eq_ok {α β : Type} {r : Request σ α} {f : α → Load σ β} {b : β}
    (h : (ask r >>= f) s = .ok b s') : ∃ a s₁, f a s₁ = .ok b s' := by
  cases hr : r s with
  | ok a s₁ =>
    rw [ask_bind_ok hr] at h
    exact ⟨a, s₁, h⟩
  | error e s₁ =>
    rw [ask_bind_error hr] at h
    cases h

/-- Whether created or replaced, a resource is reported under its kind and id. -/
theorem of_createOrReplace_eq_ok {α β : Type} {found : Request σ (Option α)}
    {create replace : Request σ β} {kind : ResourceKind} {id : String}
    (h : Push.createOrReplace found create replace kind id s = .ok l s') :
    l.kind = kind ∧ l.id = id := by
  obtain ⟨known, s₁, h⟩ := of_ask_bind_eq_ok h
  cases known with
  | none =>
    obtain ⟨_, _, h⟩ := of_ask_bind_eq_ok h
    cases h
    exact ⟨rfl, rfl⟩
  | some a =>
    obtain ⟨_, _, h⟩ := of_ask_bind_eq_ok h
    cases h
    exact ⟨rfl, rfl⟩

/-- A push that goes well is reported under its own name, whatever the service. -/
theorem of_push_eq_ok {content : Except LoadError Push} (h : push svc content s = .ok l s') :
    ∃ p, content = .ok p ∧ l.kind = p.kind ∧ l.id = p.id := by
  cases content with
  | error e => cases h
  | ok p =>
    refine ⟨p, rfl, ?_⟩
    rw [push_ok] at h
    cases p with
    | task id c hc =>
      have hrequests := pushTask_requests svc (c.apply (.blank id)) c s
      rw [show pushTask svc (c.apply (.blank id)) c s = .ok l s' from h] at hrequests
      cases hrequests with
      | created | updated => exact ⟨rfl, rfl⟩
    | template t => exact of_createOrReplace_eq_ok h
    | handler g => exact of_createOrReplace_eq_ok h

/-- How loading a file ended. -/
def resultOf {ε α : Type} : EStateM.Result ε σ α → Except ε α
  | .ok a _ => .ok a
  | .error e _ => .error e

/-- What holds of whatever is loaded holds of the result. -/
theorem of_resultOf_eq_ok {ε α : Type} {P : α → Prop} {res : EStateM.Result ε σ α}
    (h : ∀ a s', res = .ok a s' → P a) {a : α} (ha : resultOf res = .ok a) : P a := by
  cases res with
  | ok b s' =>
    cases ha
    exact h a s' rfl
  | error e s' => cases ha

/-- What is reported on a file is the report of its account. -/
theorem reportOn_eq (g : Group) (path : String) (res : EStateM.Result LoadError σ Loaded) :
    reportOn path res = Account.report [⟨g, path, resultOf res⟩] := by
  cases res <;> rfl

end Pushes

section Loads

variable [Libraries]

/-! ## What a loaded file is reported as -/

/-- What is reported on a file of the group that was loaded. Tasks and templates have the name of
their file; a handler is named by what its file holds. -/
def Group.Names (fs : FileSystem) (path : String) (l : Loaded) : Group → Prop
  | tasks | vars => l.kind = .task ∧ l.id = Path.stem path
  | templates => l.kind = .template ∧ l.id = Path.stem path
  | handlers => l.kind = .handler ∧
      ∃ h, readDocument Handler.decode fs path = .ok h ∧ l.id = h.topic ++ "/" ++ h.id

section Names

variable {σ : Type} {svc : Service σ} {fs : FileSystem} {path : String} {s s' : σ} {l : Loaded}

/-- A task script is reported as the task with the name of the file. -/
theorem names_taskScript (svc : Service σ) (fs : FileSystem) (path : String) (s : σ) (l : Loaded)
    (s' : σ) (h : taskScript svc fs path s = .ok l s') : Group.tasks.Names fs path l := by
  rw [taskScript_eq] at h
  obtain ⟨p, hp, hkind, hid⟩ := of_push_eq_ok h
  obtain ⟨⟨script, program⟩, -, rfl⟩ := exists_of_map_eq_ok hp
  exact ⟨hkind, hid⟩

/-- A template script is reported as the template with the name of the file. -/
theorem names_templatePush (h : push svc (templatePush fs path) s = .ok l s') :
    Group.templates.Names fs path l := by
  obtain ⟨p, hp, hkind, hid⟩ := of_push_eq_ok h
  obtain ⟨⟨script, program⟩, -, rfl⟩ := exists_of_map_eq_ok hp
  simp only [Push.kind, Push.id] at hkind hid
  exact ⟨hkind, hid⟩

/-- Variables are reported as the task with the name of the file. -/
theorem names_taskVars (svc : Service σ) (fs : FileSystem) (ts : Templates) (path : String) (s : σ)
    (l : Loaded) (s' : σ) (h : taskVars svc fs ts path s = .ok l s') :
    Group.vars.Names fs path l := by
  rw [taskVars_eq] at h
  obtain ⟨p, hp, hkind, hid⟩ := of_push_eq_ok h
  obtain ⟨v, -, rfl⟩ := exists_of_map_eq_ok hp
  exact ⟨hkind, hid⟩

/-- A handler is reported under the topic and the id that stand in the document. -/
theorem names_handler (svc : Service σ) (fs : FileSystem) (path : String) (s : σ) (l : Loaded)
    (s' : σ) (h : handler svc fs path s = .ok l s') : Group.handlers.Names fs path l := by
  rw [handler_eq] at h
  obtain ⟨p, hp, hkind, hid⟩ := of_push_eq_ok h
  obtain ⟨g, hg, rfl⟩ := exists_of_map_eq_ok hp
  exact ⟨hkind, g, hg, hid⟩

end Names

/-! ## Files one after another -/

/-- The accounts of some files of a group, one for each and in their order. -/
structure Accounts (fs : FileSystem) (g : Group) (paths : List String) (as : List Account) :
    Prop where
  group : ∀ a ∈ as, a.group = g
  paths : as.map (·.path) = paths
  names : ∀ a ∈ as, ∀ l, a.result = .ok l → g.Names fs a.path l

namespace Accounts

variable {fs : FileSystem} {g : Group} {paths : List String} {as : List Account}

theorem nil : Accounts fs g [] [] := ⟨by simp, rfl, by simp⟩

theorem cons {path : String} {result : Except LoadError Loaded}
    (hnames : ∀ l, result = .ok l → g.Names fs path l) (h : Accounts fs g paths as) :
    Accounts fs g (path :: paths) (⟨g, path, result⟩ :: as) := by
  refine ⟨fun a ha => ?_, ?_, fun a ha => ?_⟩
  · rcases List.mem_cons.1 ha with rfl | ha
    · rfl
    · exact h.group a ha
  · rw [List.map_cons, h.paths]
  · rcases List.mem_cons.1 ha with rfl | ha
    · exact hnames
    · exact h.names a ha

theorem names_of_mem (h : Accounts fs g paths as) {a : Account} (ha : a ∈ as) :
    ∀ l, a.result = .ok l → a.group.Names fs a.path l := by
  rw [h.group a ha]
  exact h.names a ha

/-- The files that the accounts are of. -/
theorem exists_mem_iff (h : Accounts fs g paths as) (g' : Group) (path : String) :
    (∃ a ∈ as, a.group = g' ∧ a.path = path) ↔ g = g' ∧ path ∈ paths := by
  rw [← h.paths, List.mem_map]
  constructor
  · rintro ⟨a, ha, rfl, rfl⟩
    exact ⟨(h.group a ha).symm, a, ha, rfl⟩
  · rintro ⟨rfl, a, ha, rfl⟩
    exact ⟨a, ha, h.group a ha, rfl⟩

/-- Accounts of files that are listed in order are in order. -/
theorem before (h : Accounts fs g paths as) (hsorted : paths.Pairwise (· < ·)) :
    as.Pairwise Account.Before := by
  rw [← h.paths, List.pairwise_map] at hsorted
  refine hsorted.imp_of_mem fun {a b} ha hb hlt => .inr ⟨?_, hlt⟩
  rw [h.group a ha, h.group b hb]

/-- Accounts of groups in order are in order. -/
theorem before_of_rank {g' : Group} {paths' : List String} {bs : List Account}
    (h : Accounts fs g paths as) (h' : Accounts fs g' paths' bs) (hrank : g.rank < g'.rank) :
    ∀ a ∈ as, ∀ b ∈ bs, a.Before b := by
  intro a ha b hb
  left
  rw [h.group a ha, h'.group b hb]
  exact hrank

end Accounts

section Runs

variable {σ : Type} {svc : Service σ} {fs : FileSystem}

/-- Files that are loaded one after another give one account each, whatever comes of them. -/
theorem each_accounts {load : String → Load σ Loaded} {g : Group}
    (hnames : ∀ path s l s', load path s = .ok l s' → g.Names fs path l) (paths : List String)
    (s : σ) :
    ∃ as s', each load paths s = .ok (Account.report as) s' ∧ Accounts fs g paths as := by
  induction paths generalizing s with
  | nil => exact ⟨[], s, rfl, .nil⟩
  | cons path paths ih =>
    -- The rest is loaded from the state in which the file left the service, also if it failed.
    obtain ⟨as, s', heach, has⟩ := ih (stateOf (load path s))
    refine ⟨⟨g, path, resultOf (load path s)⟩ :: as, s', ?_, .cons (fun l => ?_) has⟩
    · rw [each_cons heach, reportOn_eq g, ← Account.report_append]
      rfl
    · exact of_resultOf_eq_ok fun l s' => hnames path s l s'

/-- Templates that are loaded one after another get one account each. -/
theorem eachTemplate_accounts (svc : Service σ) (fs : FileSystem) (ts : Templates)
    (paths : List String) (s : σ) :
    ∃ as ts' s', eachTemplate svc fs ts paths s = .ok (Account.report as, ts') s' ∧
      Accounts fs .templates paths as := by
  induction paths generalizing ts s with
  | nil => exact ⟨[], ts, s, rfl, .nil⟩
  | cons path paths ih =>
    obtain ⟨known, hcons⟩ := eachTemplate_cons svc fs ts path paths s
    obtain ⟨as, ts', s', hrest, has⟩ := ih known (stateOf (push svc (templatePush fs path) s))
    refine ⟨⟨.templates, path, resultOf (push svc (templatePush fs path) s)⟩ :: as, ts', s', ?_,
      .cons (fun l => ?_) has⟩
    · rw [hcons hrest, reportOn_eq .templates, ← Account.report_append]
      rfl
    · exact of_resultOf_eq_ok fun l s' => names_templatePush

/-- A load whose subdirectories can be listed comes to its end, with accounts of all files. -/
theorem run_accounts_of_files {c : LoadConfig} {tasks scripts documents handlers : List String}
    (htasks : c.taskFiles fs = .ok tasks)
    (htemplates : c.templateFiles fs = .ok (scripts, documents))
    (hhandlers : c.handlerFiles fs = .ok handlers) (svc : Service σ) (s : σ) :
    ∃ as₁ as₂ as₃ as₄ s',
      run svc fs c s = .ok (Account.report (as₁ ++ as₂ ++ as₃ ++ as₄)) s' ∧
      Accounts fs .tasks tasks as₁ ∧ Accounts fs .templates scripts as₂ ∧
      Accounts fs .vars documents as₃ ∧ Accounts fs .handlers handlers as₄ := by
  obtain ⟨as₁, s₁, heach₁, has₁⟩ := each_accounts (names_taskScript svc fs) tasks s
  obtain ⟨as₂, ts, s₂, heach₂, has₂⟩ := eachTemplate_accounts svc fs [] scripts s₁
  obtain ⟨as₃, s₃, heach₃, has₃⟩ := each_accounts (names_taskVars svc fs ts) documents s₂
  obtain ⟨as₄, s₄, heach₄, has₄⟩ := each_accounts (names_handler svc fs) handlers s₃
  refine ⟨as₁, as₂, as₃, as₄, s₄, ?_, has₁, has₂, has₃, has₄⟩
  rw [run, htasks, htemplates]
  show (each _ tasks >>= _) s = _
  rw [bind_ok heach₁]
  show (eachTemplate _ _ _ scripts >>= _) s₁ = _
  rw [bind_ok heach₂]
  show (each _ documents >>= _) s₂ = _
  rw [bind_ok heach₃, hhandlers]
  show (each _ handlers >>= _) s₃ = _
  rw [bind_ok heach₄]
  simp only [Account.report_append]
  rfl

/-- A load of a validated directory ends with a report, whatever the files hold and whatever the
service answers. The report is made up of accounts: there is one for each file that belongs to a
group, and none for any other; they are in the order of the groups, and in one group in that of
the paths; and what is loaded from a file is reported under the name that the file gives it. -/
theorem run_accounts {c : LoadConfig} (hfs : fs.root.IsTree) (hon : c.enabled = true)
    (hvalid : c.validate fs = .ok ()) (svc : Service σ) (s : σ) :
    ∃ (r : LoadReport) (s' : σ) (as : List Account), run svc fs c s = .ok r s' ∧
      r.loaded = as.filterMap Account.loaded? ∧ r.failed = as.filterMap Account.failure? ∧
      as.Pairwise Account.Before ∧
      (∀ g path, fs.HasFile (Group.dir c g) g.extensions path ↔
        ∃ a ∈ as, a.group = g ∧ a.path = path) ∧
      ∀ a ∈ as, ∀ l, a.result = .ok l → a.group.Names fs a.path l := by
  obtain ⟨tasks, htasks, hlist₁⟩ := LoadConfig.taskFiles_lists hfs hon hvalid
  obtain ⟨scripts, documents, htemplates, hlist₂, hlist₃⟩ := LoadConfig.templateFiles_lists hfs c
  obtain ⟨handlers, hhandlers, hlist₄⟩ := LoadConfig.handlerFiles_lists hfs hon hvalid
  obtain ⟨as₁, as₂, as₃, as₄, s', hrun, has₁, has₂, has₃, has₄⟩ :=
    run_accounts_of_files htasks htemplates hhandlers svc s
  refine ⟨_, s', _, hrun, rfl, rfl, ?_, fun g path => ?_, fun a ha => ?_⟩
  · simp only [List.pairwise_append, List.mem_append]
    refine ⟨⟨⟨has₁.before hlist₁.sorted, has₂.before hlist₂.sorted, ?_⟩, has₃.before hlist₃.sorted,
      ?_⟩, has₄.before hlist₄.sorted, ?_⟩
    · exact has₁.before_of_rank has₂ (by decide)
    · rintro a (ha | ha)
      · exact has₁.before_of_rank has₃ (by decide) a ha
      · exact has₂.before_of_rank has₃ (by decide) a ha
    · rintro a ((ha | ha) | ha)
      · exact has₁.before_of_rank has₄ (by decide) a ha
      · exact has₂.before_of_rank has₄ (by decide) a ha
      · exact has₃.before_of_rank has₄ (by decide) a ha
  · simp only [List.mem_append, or_and_right, exists_or, has₁.exists_mem_iff, has₂.exists_mem_iff,
      has₃.exists_mem_iff, has₄.exists_mem_iff]
    cases g with
    | tasks => simpa [Group.dir, Group.extensions] using (hlist₁.mem_iff path).symm
    | templates => simpa [Group.dir, Group.extensions] using (hlist₂.mem_iff path).symm
    | vars => simpa [Group.dir, Group.extensions] using (hlist₃.mem_iff path).symm
    | handlers => simpa [Group.dir, Group.extensions] using (hlist₄.mem_iff path).symm
  · simp only [List.mem_append] at ha
    rcases ha with ((ha | ha) | ha) | ha
    · exact has₁.names_of_mem ha
    · exact has₂.names_of_mem ha
    · exact has₃.names_of_mem ha
    · exact has₄.names_of_mem ha

end Runs

end Loads

section Sample

attribute [local instance] libraries

theorem isTree_sampleFiles : sampleFiles.root.IsTree := by
  refine .dir (by decide) (by decide) ?_
  simp only [List.forall_mem_cons, List.not_mem_nil, false_implies, implies_true, and_true]
  refine .dir (by decide) (by decide) ?_
  simp only [List.forall_mem_cons, List.not_mem_nil, false_implies, implies_true, and_true]
  refine ⟨.dir (by decide) (by decide) ?_, .dir (by decide) (by decide) ?_,
    .dir (by decide) (by decide) ?_⟩
  all_goals
    simp only [List.forall_mem_cons, List.not_mem_nil, false_implies, implies_true, and_true]
    repeat' constructor

/-- A service that refuses whatever it is asked for does not keep the load from its end, and the
document of variables, of which the template failed, still has its account. -/
theorem run_accounts_sample :
    ∃ (r : LoadReport) (s' : Guarded Store) (as : List Account),
      run (Guarded.service (fun _ _ => some "closed") Store.service) sampleFiles ⟨true, "/d"⟩
        ⟨.empty, []⟩ = .ok r s' ∧
      r.loaded = as.filterMap Account.loaded? ∧ r.failed = as.filterMap Account.failure? ∧
      as.Pairwise Account.Before ∧
      ∃ a ∈ as, a.group = .vars ∧ a.path = "/d/templates/v.json" := by
  obtain ⟨r, s', as, hrun, hloaded, hfailed, hbefore, hfiles, -⟩ :=
    run_accounts (c := ⟨true, "/d"⟩) isTree_sampleFiles rfl (by decide +kernel)
      (Guarded.service (fun _ _ => some "closed") Store.service) ⟨.empty, []⟩
  refine ⟨r, s', as, hrun, hloaded, hfailed, hbefore, (hfiles .vars _).1 ?_⟩
  have hread : ∃ entries, sampleFiles.readDir "/d/templates" = .ok entries ∧
      entries.find? (fun e => e.1 == "v.json") =
        some ("v.json", .file "\x7b\"template-id\":\"T\"\x7d".toUTF8) :=
    ⟨_, rfl, rfl⟩
  obtain ⟨entries, hentries, hfound⟩ := hread
  have hdir : Group.dir ⟨true, "/d"⟩ .vars = "/d/templates" := by decide +kernel
  rw [hdir]
  exact ⟨entries, "v.json", _, "json", hentries, List.mem_of_find?_eq_some hfound,
    by decide +kernel, by decide, by decide +kernel⟩

end Sample

end Load

end Tickscript
