import Tickscript.Proofs.LoadEffects

/-!
# Variables against the types that a template declares

A document of variables is checked against the program of the template that it names, provided
that the program is among those collected before. It is there only if it reads from a stream or
from a batch: a template that was parsed but does neither is not collected, and what it declares
is not looked at. `Load.run_vars_iff` says exactly when a variable of a wrong type makes its
document fail.
-/

namespace Tickscript

/-! ## Names of files -/

namespace Path

/-- A name with an extension is the stem, a point and the extension. -/
theorem eq_of_splitExtension {name stem ext : String} (h : splitExtension name = (stem, some ext)) :
    name = stem ++ "." ++ ext := by
  unfold splitExtension at h
  simp only at h
  split at h
  · cases h
  · next c rest hdrop =>
    split at h
    · cases h
    · cases h
      have hc : c = '.' := by
        have hstop := List.head?_dropWhile_not (fun c => decide (c ≠ '.')) name.toList.reverse
        rw [hdrop] at hstop
        simpa using hstop
      have hcut := List.takeWhile_append_dropWhile (p := fun c => decide (c ≠ '.'))
        (l := name.toList.reverse)
      rw [hdrop, hc] at hcut
      have hname := congrArg List.reverse hcut
      rw [List.reverse_reverse, List.reverse_append, List.reverse_cons] at hname
      refine String.toList_inj.1 ?_
      simp only [String.toList_append, String.toList_ofList]
      exact hname.symm

/-- The last part of a path into a directory is the name that was joined to it. -/
theorem fileName_join {name : String} (h : '/' ∉ name.toList) (dir : String) :
    fileName (join dir name) = name := by
  have htake : ∀ cs : List Char, (∀ c ∈ cs.head?, c = '/') →
      (name.toList.reverse ++ cs).takeWhile (· ≠ '/') = name.toList.reverse := by
    intro cs hcs
    rw [List.takeWhile_append_of_pos]
    · cases cs with
      | nil => simp
      | cons c cs => simp [hcs c (by simp)]
    · intro c hc
      have : c ≠ '/' := fun hslash => h (by simpa [hslash] using hc)
      simpa using this
  have hname : ∀ cs : List Char, (∀ c ∈ cs.head?, c = '/') → ∀ p : String,
      p.toList.reverse = name.toList.reverse ++ cs → fileName p = name := by
    intro cs hcs p hp
    rw [fileName, hp, htake cs hcs, List.reverse_reverse, String.ofList_toList]
  unfold join
  split
  · exact hname [] (by simp) name (by simp)
  · split
    · next hlast =>
      refine hname dir.toList.reverse (fun c hc => ?_) _ (by simp)
      rw [List.head?_reverse, hlast] at hc
      exact (Option.some.inj hc).symm
    · exact hname ('/' :: dir.toList.reverse) (by simp) _ (by simp)

end Path

/-- The names in a directory are names, not paths. -/
def FileSystem.PlainNames (fs : FileSystem) (dir : String) : Prop :=
  ∀ entries, fs.readDir dir = .ok entries → ∀ e ∈ entries, '/' ∉ e.1.toList

/-- Each path listed is the directory joined with the name of an entry that has a listed
extension. -/
theorem exists_of_mem_listFiles {fs : FileSystem} {dir path : String}
    {extensions paths : List String}
    (h : listFiles fs dir extensions = .ok paths) (hpath : path ∈ paths) :
    ∃ entries e ext, fs.readDir dir = .ok entries ∧ e ∈ entries ∧ path = Path.join dir e.1 ∧
      (Path.splitExtension e.1).2 = some ext ∧ ext ∈ extensions := by
  unfold listFiles at h
  cases hread : fs.readDir dir with
  | error fault => rw [hread] at h; cases h
  | ok entries =>
    rw [hread] at h
    simp only [LoadError.ofRead, bind, Except.bind, pure, Except.pure] at h
    cases h
    obtain ⟨name, hname, rfl⟩ := List.mem_map.1 hpath
    rw [List.mem_mergeSort] at hname
    obtain ⟨e, he, rfl⟩ := List.mem_map.1 hname
    obtain ⟨he, hchosen⟩ := List.mem_filter.1 he
    rw [Bool.and_eq_true, Option.any_eq_true] at hchosen
    obtain ⟨ext, hext, hin⟩ := hchosen.2
    exact ⟨entries, e, ext, rfl, he, rfl, hext, by simpa using hin⟩

namespace LoadConfig

variable {c : LoadConfig} {fs : FileSystem} {scripts documents : List String}

/-- The template scripts are the files with the extension of scripts. -/
theorem listFiles_of_templateFiles (h : c.templateFiles fs = .ok (scripts, documents))
    {path : String}
    (hpath : path ∈ scripts) : listFiles fs c.templatesDir scriptExtensions = .ok scripts := by
  unfold templateFiles at h
  split at h
  · cases hscripts : listFiles fs c.templatesDir scriptExtensions with
    | error e => rw [hscripts] at h; cases h
    | ok scripts' =>
      cases hdocuments : listFiles fs c.templatesDir documentExtensions with
      | error e => rw [hscripts, hdocuments] at h; cases h
      | ok documents' =>
        rw [hscripts, hdocuments] at h
        cases h
        rfl
  · cases h
    cases hpath

/-- There is one template script for an id. -/
theorem eq_of_stem_eq (hnames : fs.PlainNames c.templatesDir)
    (h : c.templateFiles fs = .ok (scripts, documents)) {p q : String} (hp : p ∈ scripts)
    (hq : q ∈ scripts) (hstem : Path.stem p = Path.stem q) : p = q := by
  have hlist := listFiles_of_templateFiles h hp
  have hform : ∀ path ∈ scripts,
      path = Path.join c.templatesDir (Path.stem path ++ "." ++ "tick") := by
    intro path hpath
    obtain ⟨entries, e, ext, hread, he, hjoin, hext, hin⟩ := exists_of_mem_listFiles hlist hpath
    obtain rfl := List.mem_singleton.1 hin
    have hfile : Path.fileName path = e.1 := by
      rw [hjoin]
      exact Path.fileName_join (hnames entries hread e he) _
    have hsplit : Path.splitExtension e.1 = (Path.stem path, some "tick") := by
      rw [Path.stem, hfile, ← hext]
    rw [← Path.eq_of_splitExtension hsplit]
    exact hjoin
  rw [hform p hp, hform q hq, hstem]

end LoadConfig

namespace Load

variable {fs : FileSystem}

/-- An entry in front is found first. -/
theorem lookup?_cons {α : Type} (key k : String) (a : α) (entries : List (String × α)) :
    Wire.lookup? key ((k, a) :: entries) =
      if k = key then some a else Wire.lookup? key entries := by
  unfold Wire.lookup?
  by_cases hk : k = key
  · rw [List.find?_cons_of_pos (by simpa using hk), if_pos hk]
    rfl
  · rw [List.find?_cons_of_neg (by simpa using hk), if_neg hk]

/-- A variable passes its check if its template, if known, declares no other type for it, and its
value has the shape that its type asks for. -/
theorem checkVar_ok_iff {id name : String} {template : Option Program} {v : Var} :
    checkVar id template name v = .ok () ↔
      (∀ p ∈ template, ∀ d ∈ declaredType? p name, d = v.type) ∧ v.isConsistent = true := by
  unfold checkVar
  cases template with
  | none => cases v.isConsistent <;> simp
  | some p =>
    cases hd : declaredType? p name with
    | none => cases v.isConsistent <;> simp [hd]
    | some d =>
      by_cases htype : d = v.type
      · cases v.isConsistent <;> simp [hd, htype]
      · simp [hd, htype]

/-- Variables pass the check if each of them does. -/
theorem checkVars_ok_iff {id : String} {template : Option Program} {vs : List (String × Var)} :
    checkVars id template vs = .ok () ↔ ∀ x ∈ vs, checkVar id template x.1 x.2 = .ok () := by
  induction vs with
  | nil => simp [checkVars]
  | cons x vs ih =>
    obtain ⟨name, v⟩ := x
    rw [checkVars, List.forall_mem_cons]
    cases hv : checkVar id template name v with
    | error e => simp
    | ok u => simpa using ih

/-- Without a fault, all files of all subdirectories are come to. -/
theorem mem_upToFault_of_ok {phases : List (Except LoadError (List Item))}
    (h : (upToFault phases).2 = none) {items : List Item} (hitems : .ok items ∈ phases) {i : Item}
    (hi : i ∈ items) : i ∈ (upToFault phases).1 := by
  induction phases with
  | nil => cases hitems
  | cons phase phases ih =>
    cases phase with
    | error e => cases h
    | ok first =>
      rcases List.mem_cons.1 hitems with heq | hitems
      · cases heq
        exact List.mem_append_left _ hi
      · exact List.mem_append_right _ (ih h hitems)

theorem exists_of_any {ε α : Type} {x : Except ε α} {p : α → Bool}
    (h : x.toOption.any p = true) : ∃ a, x = .ok a ∧ p a = true := by
  cases x with
  | error e => cases h
  | ok a => exact ⟨a, rfl, h⟩

section Documents

variable [Libraries]

/-! ## Templates that are collected -/

/-- A template is found among those collected if its script, the only one for its id, is good. -/
theorem lookup?_collect_ok {id : String} {text : String} {p : Program} {ts : Templates}
    {paths : List String}
    (honly : ∀ path ∈ paths, Path.stem path = id → readScript fs path = .ok (text, p))
    (h : (∃ path ∈ paths, Path.stem path = id) ∨ Wire.lookup? id ts = some p) :
    Wire.lookup? id (collect fs ts paths) = some p := by
  induction paths generalizing ts with
  | nil => exact h.resolve_left (by simp)
  | cons path paths ih =>
    have hrest := fun q hq => honly q (List.mem_cons_of_mem path hq)
    have hlater : (∃ q ∈ path :: paths, Path.stem q = id) → Path.stem path ≠ id →
        ∃ q ∈ paths, Path.stem q = id := by
      rintro ⟨q, hq, hstem⟩ hne
      rcases List.mem_cons.1 hq with rfl | hq
      · exact absurd hstem hne
      · exact ⟨q, hq, hstem⟩
    by_cases hpath : Path.stem path = id
    · have hread := honly path (by simp) hpath
      simp only [collect, hread]
      exact ih hrest (.inr (by rw [lookup?_cons, if_pos hpath]))
    · cases hread : readScript fs path with
      | error e =>
        simp only [collect, hread]
        exact ih hrest (h.imp_left fun h => hlater h hpath)
      | ok script =>
        simp only [collect, hread]
        refine ih hrest (h.imp (fun h => hlater h hpath) fun h => ?_)
        rw [lookup?_cons, if_neg hpath, h]

/-- A template is not found among those collected if its script fails. -/
theorem lookup?_collect_error {id : String} {e : LoadError} {ts : Templates} {paths : List String}
    (honly : ∀ path ∈ paths, Path.stem path = id → readScript fs path = .error e) :
    Wire.lookup? id (collect fs ts paths) = Wire.lookup? id ts := by
  induction paths generalizing ts with
  | nil => rfl
  | cons path paths ih =>
    have hrest := fun q hq => honly q (List.mem_cons_of_mem path hq)
    cases hread : readScript fs path with
    | error e' =>
      simp only [collect, hread]
      exact ih hrest
    | ok script =>
      have hne : Path.stem path ≠ id := by
        intro hstem
        rw [honly path (by simp) hstem] at hread
        cases hread
      simp only [collect, hread]
      rw [ih hrest, lookup?_cons, if_neg hne]

/-- A template is found among those collected unless its script cannot run as a task. -/
theorem lookup?_collect {c : LoadConfig} {scripts documents : List String} {script text : String}
    {p : Program} (hnames : fs.PlainNames c.templatesDir)
    (hfiles : c.templateFiles fs = .ok (scripts, documents)) (hscript : script ∈ scripts)
    (htext : fs.readText script = .ok text) (hparse : Program.parse text = .ok p) :
    Wire.lookup? (Path.stem script) (collect fs [] scripts) =
      if p.taskType = .invalid then none else some p := by
  have hread := readScript_parsed htext hparse
  have honly : ∀ path ∈ scripts, Path.stem path = Path.stem script →
      readScript fs path = readScript fs script := by
    intro path hpath hstem
    rw [LoadConfig.eq_of_stem_eq hnames hfiles hpath hscript hstem]
  by_cases htype : p.taskType = .invalid
  · rw [if_pos htype] at hread ⊢
    exact lookup?_collect_error fun path hpath hstem => (honly path hpath hstem).trans hread
  · rw [if_neg htype] at hread ⊢
    exact lookup?_collect_ok (fun path hpath hstem => (honly path hpath hstem).trans hread)
      (.inl ⟨script, hscript, rfl⟩)

/-! ## Checks of variables -/

/-- The condition under which a document of variables is refused. -/
theorem readVars_error_iff {path : String} {v : TaskVars}
    (h : readDocument TaskVars.decode fs path = .ok v) (ts : Templates) :
    (∃ e, readVars fs ts path = .error e) ↔
      ∃ x ∈ v.vars, (∃ p ∈ Wire.lookup? v.templateId ts, ∃ d ∈ declaredType? p x.1, d ≠ x.2.type) ∨
        x.2.isConsistent = false := by
  rw [readVars_decoded h]
  cases hcheck : checkVars (Path.stem path) (Wire.lookup? v.templateId ts) v.vars with
  | ok u =>
    have hall := checkVars_ok_iff.1 hcheck
    constructor
    · rintro ⟨e, he⟩
      cases he
    · rintro ⟨x, hx, hbad⟩
      obtain ⟨htypes, hvalue⟩ := checkVar_ok_iff.1 (hall x hx)
      rcases hbad with ⟨p, hp, d, hd, hne⟩ | hbad
      · exact absurd (htypes p hp d hd) hne
      · rw [hvalue] at hbad
        cases hbad
  | error e =>
    refine ⟨fun _ => ?_, fun _ => ⟨e, rfl⟩⟩
    by_contra hgood
    have hok : checkVars (Path.stem path) (Wire.lookup? v.templateId ts) v.vars = .ok () := by
      refine checkVars_ok_iff.2 fun x hx => checkVar_ok_iff.2 ⟨fun p hp d hd => ?_, ?_⟩
      · by_contra hne
        exact hgood ⟨x, hx, .inl ⟨p, hp, d, hd, hne⟩⟩
      · by_contra hvalue
        exact hgood ⟨x, hx, .inr (by simpa using hvalue)⟩
    rw [hok] at hcheck
    cases hcheck

/-- A variable is held against a template that declares another type only if the template is
found. -/
theorem readVars_error_iff_of_ne {path name : String} {v : TaskVars} {w : Var} {d : VarType}
    {p : Program} {ts : Templates} (h : readDocument TaskVars.decode fs path = .ok v)
    (hlookup : Wire.lookup? v.templateId ts = if p.taskType = .invalid then none else some p)
    (hvar : (name, w) ∈ v.vars) (hdeclared : declaredType? p name = some d) (hne : w.type ≠ d) :
    (∃ e, readVars fs ts path = .error e) ↔
      (p.taskType ≠ .invalid ∨ ∃ x ∈ v.vars, x.2.isConsistent = false) := by
  rw [readVars_error_iff h, hlookup]
  by_cases htype : p.taskType = .invalid
  · simp [htype]
  · rw [if_neg htype]
    exact iff_of_true ⟨(name, w), hvar, .inl ⟨p, rfl, d, hdeclared, hne.symm⟩⟩ (.inl htype)

/-- Once a document could be read, only its variables can be at fault. -/
theorem ofVars_of_readVars {path : String} {v : TaskVars} {ts : Templates} {e : LoadError}
    (h : readDocument TaskVars.decode fs path = .ok v) (he : readVars fs ts path = .error e) :
    e.OfVars (Path.stem path) := by
  rw [readVars_decoded h] at he
  exact ofVars_of_checkVars (map_eq_error he)

/-- Variables that pass their check are pushed as a task with the name of the file. -/
theorem varsPush_ok {path : String} {v : TaskVars} {ts : Templates}
    (h : readVars fs ts path = .ok v) :
    ∃ q, varsPush fs ts path = .ok q ∧ q.kind = .task ∧ q.id = Path.stem path := by
  rw [varsPush, h]
  exact ⟨_, rfl, rfl, rfl⟩

/-! ## Documents in a load -/

/-- A load that comes to its end comes to every document of variables. -/
theorem mem_plan_of_document {c : LoadConfig} {scripts documents : List String} {items : List Item}
    (hplan : plan fs c = (items, none)) (hfiles : c.templateFiles fs = .ok (scripts, documents))
    {path : String} (hpath : path ∈ documents) :
    Item.ofFile (varsPush fs (collect fs [] scripts)) path ∈ items := by
  have hitems : items = (upToFault (phases fs c)).1 := by
    rw [← plan, hplan]
  have hfault : (upToFault (phases fs c)).2 = none := by
    rw [← plan, hplan]
  have hphase : .ok (scripts.map (Item.ofFile (templatePush fs)) ++
      documents.map (Item.ofFile (varsPush fs (collect fs [] scripts)))) ∈ phases fs c := by
    rw [phases, hfiles]
    exact List.mem_cons_of_mem _ List.mem_cons_self
  rw [hitems]
  exact mem_upToFault_of_ok hfault hphase (List.mem_append_right _ (List.mem_map_of_mem hpath))

/-- A document is reported as failed, and nothing is done for it, exactly if it is refused. -/
theorem exists_failure_iff {ts : Templates} {path : String} {v : TaskVars} {items : List Item}
    (hitem : Item.ofFile (varsPush fs ts) path ∈ items)
    (h : readDocument TaskVars.decode fs path = .ok v) :
    (∃ e, (path, e) ∈ failures items ∧ e.OfVars (Path.stem path) ∧
        ∀ t, taskVars Store.service fs ts path t = .error e t) ↔
      ∃ e, readVars fs ts path = .error e := by
  constructor
  · rintro ⟨e, -, -, hload⟩
    cases hread : readVars fs ts path with
    | error e' => exact ⟨e', rfl⟩
    | ok v' =>
      have hpushed := hload .empty
      obtain ⟨q, hq, -⟩ := varsPush_ok hread
      rw [taskVars_eq, hq, push_ok, Push.run_store] at hpushed
      cases hpushed
  · rintro ⟨e, he⟩
    have hcontent : varsPush fs ts path = .error e := by
      rw [varsPush, he]
      rfl
    rw [Item.ofFile, hcontent] at hitem
    refine ⟨e, mem_failures.2 hitem, ofVars_of_readVars h he, fun t => ?_⟩
    rw [taskVars_eq, hcontent, push_error]

/-- Variables that pass their check are loaded, as the task with the name of the file. -/
theorem exists_loaded_of_readVars {ts : Templates} {path : String} {v : TaskVars}
    {items : List Item} (hitem : Item.ofFile (varsPush fs ts) path ∈ items)
    (h : readVars fs ts path = .ok v) (s : Store) :
    ∃ l ∈ (report s items).loaded, l.kind = .task ∧ l.id = Path.stem path := by
  obtain ⟨q, hq, hkind, hid⟩ := varsPush_ok h
  have hmem : q ∈ pushes items := by
    refine List.mem_filterMap.2 ⟨_, hitem, ?_⟩
    rw [Item.push?, Item.ofFile, hq]
    rfl
  obtain ⟨l, hl, hlk, hli⟩ := Push.exists_loaded hmem s
  exact ⟨l, hl, hlk.trans hkind, hli.trans hid⟩

/-- Let the script of a template be parsed, and let a document of variables name the template and
give a variable another type than the template declares. Then the document is reported as failed,
and nothing is done for it, exactly if the script also reads from a stream or from a batch, or the
value of some variable is wrong by itself. Otherwise the document is loaded. -/
theorem run_vars_iff {c : LoadConfig} {s s' : Store} {r : LoadReport}
    {scripts documents : List String} {script document text name : String} {p : Program}
    {v : TaskVars} {w : Var} {d : VarType} (hrun : run Store.service fs c s = .ok r s')
    (hnames : fs.PlainNames c.templatesDir) (hfiles : c.templateFiles fs = .ok (scripts, documents))
    (hscript : script ∈ scripts) (htext : fs.readText script = .ok text)
    (hparse : Program.parse text = .ok p) (hdocument : document ∈ documents)
    (hvars : readDocument TaskVars.decode fs document = .ok v)
    (hid : v.templateId = Path.stem script) (hvar : (name, w) ∈ v.vars)
    (hdeclared : declaredType? p name = some d) (hne : w.type ≠ d) :
    ((∃ e, (document, e) ∈ r.failed ∧ e.OfVars (Path.stem document) ∧
        ∀ t, taskVars Store.service fs (collect fs [] scripts) document t = .error e t) ↔
      (p.taskType ≠ .invalid ∨ ∃ x ∈ v.vars, x.2.isConsistent = false)) ∧
    ((p.taskType = .invalid ∧ ∀ x ∈ v.vars, x.2.isConsistent = true) →
      ∃ l ∈ r.loaded, l.kind = .task ∧ l.id = Path.stem document) := by
  obtain ⟨items, hplan, rfl, rfl⟩ := run_store_ok_iff.1 hrun
  have hitem := mem_plan_of_document hplan hfiles hdocument
  have hlookup := lookup?_collect hnames hfiles hscript htext hparse
  rw [← hid] at hlookup
  have hrefused := readVars_error_iff_of_ne hvars hlookup hvar hdeclared hne
  refine ⟨(exists_failure_iff hitem hvars).trans hrefused, ?_⟩
  rintro ⟨htype, hgood⟩
  cases hread : readVars fs (collect fs [] scripts) document with
  | error e =>
    rcases hrefused.1 ⟨e, hread⟩ with hother | ⟨x, hx, hbad⟩
    · exact absurd htype hother
    · rw [hgood x hx] at hbad
      cases hbad
  | ok v' => exact exists_loaded_of_readVars hitem hread s

end Documents

/-- A directory with one template script, and a document that gives the variable `x` of it a whole
number. -/
def templateFilesWith (script : String) : FileSystem where
  root := .dir [("d", .dir [("tasks", .dir []), ("handlers", .dir []),
    ("templates", .dir [("T.tick", .file script.toUTF8),
      ("v.json", .file ("\x7b\"template-id\":\"T\",\"vars\":\x7b\"x\":" ++
        "\x7b\"type\":\"int\",\"value\":1\x7d\x7d\x7d").toUTF8)])])]
  current := "/"

section Sample

attribute [local instance] libraries

/-- Whether a load of that directory is as `run_vars_iff` supposes, if the script is one of a task
of the given type. -/
def declaresText (script : String) (type : TaskType) : Bool :=
  let fs := templateFilesWith script
  endsIn (fun _ _ => true) (run Store.service fs ⟨true, "/d"⟩ .empty) &&
  (fs.readDir "/d/templates").toOption.any (·.all fun e => decide ('/' ∉ e.1.toList)) &&
  decide (LoadConfig.templateFiles ⟨true, "/d"⟩ fs =
    .ok (["/d/templates/T.tick"], ["/d/templates/v.json"])) &&
  decide (fs.readText "/d/templates/T.tick" = .ok script) &&
  (Program.parse script).toOption.any (fun p =>
    decide (p.taskType = type ∧ declaredType? p "x" = some .string)) &&
  (readDocument TaskVars.decode fs "/d/templates/v.json").toOption.any (fun v =>
    decide (v.templateId = "T") && v.vars.all (·.2.isConsistent) &&
      v.vars.any fun x => decide (x.1 = "x" ∧ x.2.type = .int))

/-- A template that declares a text refuses the number if it reads from a stream. If it reads from
nothing, the number is loaded. -/
theorem run_vars_iff_sample :
    (∃ r s', run Store.service (templateFilesWith "stream var x string") ⟨true, "/d"⟩ .empty =
        .ok r s' ∧ ∃ e, ("/d/templates/v.json", e) ∈ r.failed ∧ e.OfVars "v") ∧
    ∃ r s', run Store.service (templateFilesWith "var x string") ⟨true, "/d"⟩ .empty = .ok r s' ∧
      ∃ l ∈ r.loaded, l.kind = .task ∧ l.id = "v" := by
  have happly : ∀ script type, declaresText script type = true →
      ∃ r s', run Store.service (templateFilesWith script) ⟨true, "/d"⟩ .empty = .ok r s' ∧
        (type ≠ .invalid → ∃ e, ("/d/templates/v.json", e) ∈ r.failed ∧ e.OfVars "v") ∧
        (type = .invalid → ∃ l ∈ r.loaded, l.kind = .task ∧ l.id = "v") := by
    intro script type h
    simp only [declaresText, Bool.and_eq_true] at h
    obtain ⟨⟨⟨⟨⟨hends, hdir⟩, hfiles⟩, htext⟩, hprogram⟩, hdocument⟩ := h
    obtain ⟨r, s', hrun, -⟩ := exists_of_endsIn hends
    obtain ⟨entries, hentries, hplain⟩ := exists_of_any hdir
    obtain ⟨p, hparse, hp⟩ := exists_of_any hprogram
    obtain ⟨htype, hdeclared⟩ := of_decide_eq_true hp
    subst htype
    obtain ⟨v, hvars, hv⟩ := exists_of_any hdocument
    simp only [Bool.and_eq_true, decide_eq_true_eq, List.all_eq_true, List.any_eq_true] at hv
    obtain ⟨⟨hid, hgood⟩, ⟨name, w⟩, hvar, rfl, hint⟩ := hv
    have hnames : (templateFilesWith script).PlainNames (LoadConfig.templatesDir ⟨true, "/d"⟩) := by
      intro entries' hentries' e he
      have hjoin : LoadConfig.templatesDir ⟨true, "/d"⟩ = "/d/templates" := by decide
      rw [hjoin, hentries] at hentries'
      cases hentries'
      exact of_decide_eq_true (List.all_eq_true.1 hplain e he)
    have hstem : Path.stem "/d/templates/v.json" = "v" := by decide +kernel
    have hne : w.type ≠ .string := by
      have hint : w.type = .int := hint
      simp [hint]
    have hiff := run_vars_iff hrun hnames (of_decide_eq_true hfiles) (List.mem_singleton_self _)
      (of_decide_eq_true htext) hparse (List.mem_singleton_self _) hvars
      (hid.trans (by decide +kernel)) hvar hdeclared hne
    rw [hstem] at hiff
    refine ⟨r, s', hrun, fun htype => ?_, fun htype => hiff.2 ⟨htype, hgood⟩⟩
    obtain ⟨e, hfailed, he, -⟩ := hiff.1.2 (.inl htype)
    exact ⟨e, hfailed, he⟩
  obtain ⟨r, s', hrun, hfailed, -⟩ := happly "stream var x string" .stream (by decide +kernel)
  obtain ⟨r', s'', hrun', -, hloaded⟩ := happly "var x string" .invalid (by decide +kernel)
  exact ⟨⟨r, s', hrun, hfailed (by decide)⟩, r', s'', hrun', hloaded rfl⟩

end Sample

end Load

end Tickscript
