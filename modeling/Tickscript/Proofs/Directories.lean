import Mathlib.Tactic
import Mathlib.Data.String.Basic
import Tickscript.Load.Config

/-!
# What a listing of a directory holds

A directory is listed by name, and its files are named by path. `listFiles_lists` says what comes
of it: every file with one of the extensions, once, in the order of the paths. That the order of
the names is that of the paths, and that no path comes twice, rests on how names are in a tree
(`Entry.IsTree`): none is a path of its own, and those in one directory differ.

A directory that was validated has the subdirectories that a load lists
(`LoadConfig.readDir_of_validate`). The validation looks into the directory and a load resolves a
longer path from the root, so the two have to be shown to meet: following the components of a path
to a subdirectory is following those of the directory and then one name more
(`FileSystem.resolve_join`).
-/

namespace Tickscript

/-! ## Trees -/

/-- A tree of directories as there can be one: no name is a path, and the names in one directory
differ. -/
inductive Entry.IsTree : Entry → Prop where
  | file (bytes : ByteArray) : IsTree (.file bytes)
  | dir {entries : List (String × Entry)} (distinct : (entries.map (·.1)).Nodup)
      (plain : ∀ e ∈ entries, '/' ∉ e.1.toList) (inside : ∀ e ∈ entries, e.2.IsTree) :
      IsTree (.dir entries)

namespace Entry

/-- An entry that is found by a name is in the directory under that name. -/
theorem mem_of_find? {name : String} {entries : List (String × Entry)} {e : Entry}
    (h : find? name entries = some e) : (name, e) ∈ entries := by
  obtain ⟨⟨n, e'⟩, hfound, rfl⟩ := Option.map_eq_some_iff.1 h
  have hname : n = name := by simpa using List.find?_some hfound
  rw [← hname]
  exact List.mem_of_find?_eq_some hfound

/-- Whatever is found in a tree is a tree. -/
theorem IsTree.follow {above : List Entry} {here e : Entry} {names : List (List Char)}
    (hhere : here.IsTree) (habove : ∀ a ∈ above, a.IsTree)
    (h : Entry.follow above here names = .ok e) : e.IsTree := by
  induction names generalizing above here with
  | nil =>
    cases h
    exact hhere
  | cons name names ih =>
    cases hhere with
    | file bytes => cases h
    | @dir entries distinct plain inside =>
      have hdir : (Entry.dir entries).IsTree := .dir distinct plain inside
      unfold Entry.follow at h
      dsimp only at h
      split at h
      · exact ih hdir habove h
      · split at h
        · cases above with
          | nil => exact ih hdir (by simp) h
          | cons parent above =>
            exact ih (habove parent (by simp)) (fun a ha => habove a (by simp [ha])) h
        · split at h
          · cases h
          · next found hfound =>
            refine ih (inside _ (mem_of_find? hfound)) (fun a ha => ?_) h
            rcases List.mem_cons.1 ha with rfl | ha
            · exact hdir
            · exact habove a ha

/-- A way that ends with a name is the way to a directory and then a look into it. Where it came
through does not matter any more, unless the name leads back there. -/
theorem follow_snoc {name : List Char} (hup : name ≠ ['.', '.']) (above : List Entry)
    (here : Entry) (names : List (List Char)) :
    follow above here (names ++ [name]) =
      (follow above here names).bind fun e => follow [] e [name] := by
  induction names generalizing above here with
  | nil =>
    cases here with
    | file bytes => rfl
    | dir entries =>
      show follow above (.dir entries) [name] = follow [] (.dir entries) [name]
      simp only [follow, if_neg hup]
  | cons n names ih =>
    -- What is done with the directory in the end plays no part on the way there.
    generalize (fun e => follow [] e [name]) = look at ih ⊢
    cases here with
    | file bytes => rfl
    | dir entries =>
      simp only [List.cons_append, follow]
      split
      · exact ih above _
      · split
        · cases above with
          | nil => exact ih [] _
          | cons parent above => exact ih above parent
        · split
          · rfl
          · exact ih _ _

end Entry

/-! ## Paths -/

namespace Path

/-- A path has one component at least, which may be empty. -/
theorem components_ne_nil (cs : List Char) : components cs ≠ [] := by
  cases cs with
  | nil => simp [components]
  | cons c cs =>
    rw [components]
    split
    · simp
    · split <;> simp

/-- A path is cut at each of its slashes. -/
theorem components_append (cs ds : List Char) :
    components (cs ++ '/' :: ds) = components cs ++ components ds := by
  induction cs with
  | nil => simp [components]
  | cons c cs ih =>
    rw [List.cons_append, components, components]
    split
    · rw [ih, List.cons_append]
    · rw [ih]
      cases hcs : components cs with
      | nil => exact absurd hcs (components_ne_nil cs)
      | cons p ps => rfl

/-- A name without slashes is its own single component. -/
theorem components_of_plain {cs : List Char} (h : '/' ∉ cs) : components cs = [cs] := by
  induction cs with
  | nil => rfl
  | cons c cs ih =>
    have hc : c ≠ '/' := fun hc => h (by simp [hc])
    have hcs : '/' ∉ cs := fun hcs => h (by simp [hcs])
    rw [components, if_neg hc, ih hcs]

/-- A name without slashes is not absolute. -/
theorem not_isAbsolute {name : String} (h : '/' ∉ name.toList) : isAbsolute name = false := by
  refine decide_eq_false fun hhead => h ?_
  exact List.mem_of_mem_head? hhead

/-- The slash that joins a name to a directory, if the directory does not end with one. -/
def separator (dir : String) : List Char :=
  if dir = "" ∨ dir.toList.getLast? = some '/' then [] else ['/']

/-- Joining puts a slash between the directory and the name, unless the directory ends in one. -/
theorem toList_join {name : String} (h : '/' ∉ name.toList) (dir : String) :
    (join dir name).toList = dir.toList ++ separator dir ++ name.toList := by
  unfold join separator
  rw [not_isAbsolute h]
  by_cases hempty : dir = ""
  · simp [hempty]
  · by_cases hlast : dir.toList.getLast? = some '/'
    · simp [hempty, hlast]
    · simp [hempty, hlast]

/-- In one directory paths are ordered as names are. -/
theorem join_lt_join {a b : String} (ha : '/' ∉ a.toList) (hb : '/' ∉ b.toList) (hlt : a < b)
    (dir : String) : join dir a < join dir b := by
  rw [String.lt_iff_toList_lt, toList_join ha, toList_join hb]
  exact List.Lex.append_left _ (String.lt_iff_toList_lt.1 hlt) _

/-- What is joined to an absolute directory is absolute. -/
theorem isAbsolute_join {dir : String} (hdir : isAbsolute dir = true) {name : String}
    (h : '/' ∉ name.toList) : isAbsolute (join dir name) = true := by
  have hhead : dir.toList.head? = some '/' := of_decide_eq_true hdir
  refine decide_eq_true ?_
  rw [toList_join h, List.append_assoc, List.head?_append, hhead]
  rfl

end Path

namespace FileSystem

/-- An absolute path is followed from the root. -/
theorem resolve_of_isAbsolute {path : String} (h : Path.isAbsolute path = true) (fs : FileSystem) :
    fs.resolve path = Entry.follow [] fs.root (Path.components path.toList) := by
  have hne : path ≠ "" := by
    rintro rfl
    cases h
  rw [resolve, if_neg hne, Path.join, h]
  rfl

/-- A name in a directory leads to what the directory has under it. -/
theorem resolve_join {fs : FileSystem} {dir sub : String} {entries : List (String × Entry)}
    (hdir : Path.isAbsolute dir = true) (hplain : '/' ∉ sub.toList)
    (hsub : sub.toList ∉ [[], ['.'], ['.', '.']]) (h : fs.readDir dir = .ok entries) {e : Entry}
    (he : Entry.find? sub entries = some e) : fs.resolve (Path.join dir sub) = .ok e := by
  have hresolve : fs.resolve dir = .ok (.dir entries) := by
    unfold readDir at h
    split at h
    · next hentries =>
      cases h
      exact hentries
    · cases h
    · cases h
  rw [resolve_of_isAbsolute hdir] at hresolve
  rw [resolve_of_isAbsolute (Path.isAbsolute_join hdir hplain), Path.toList_join hplain]
  simp only [List.mem_cons, List.not_mem_nil, or_false, not_or] at hsub
  obtain ⟨hne, hdot, hup⟩ := hsub
  have hlook : Entry.follow [] (.dir entries) [sub.toList] = .ok e := by
    simp [Entry.follow, hne, hdot, hup, he]
  by_cases hlast : dir.toList.getLast? = some '/'
  · -- The directory ends with a slash, behind which its last component is empty.
    obtain ⟨cs, hcs⟩ : ∃ cs, dir.toList = cs ++ ['/'] :=
      ⟨_, (List.dropLast_append_getLast? _ hlast).symm⟩
    have hsep : Path.separator dir = [] := if_pos (.inr hlast)
    rw [hcs, Path.components_append, Path.components, Entry.follow_snoc (by simp)] at hresolve
    have hbefore : Entry.follow [] fs.root (Path.components cs) = .ok (.dir entries) := by
      cases hfollow : Entry.follow [] fs.root (Path.components cs) with
      | error fault =>
        rw [hfollow] at hresolve
        cases hresolve
      | ok found =>
        rw [hfollow] at hresolve
        cases found with
        | file bytes => cases hresolve
        | dir entries' => exact hresolve
    rw [hcs, hsep, List.append_nil, List.append_assoc, List.singleton_append,
      Path.components_append, Path.components_of_plain hplain, Entry.follow_snoc hup, hbefore]
    exact hlook
  · have hnonempty : dir ≠ "" := by
      rintro rfl
      cases hdir
    have hsep : Path.separator dir = ['/'] := if_neg (by simp [hnonempty, hlast])
    rw [hsep, List.append_assoc, List.singleton_append, Path.components_append,
      Path.components_of_plain hplain, Entry.follow_snoc hup, hresolve]
    exact hlook

/-- What is read in a tree of files is again one. -/
theorem isTree_of_readDir {fs : FileSystem} (hfs : fs.root.IsTree) {dir : String}
    {entries : List (String × Entry)} (h : fs.readDir dir = .ok entries) :
    (Entry.dir entries).IsTree := by
  unfold readDir resolve at h
  split at h
  · next hentries =>
    cases h
    split at hentries
    · cases hentries
    · exact hfs.follow (by simp) hentries
  · cases h
  · cases h

/-- A file directly in a directory that has one of the extensions. -/
def HasFile (fs : FileSystem) (dir : String) (extensions : List String) (path : String) : Prop :=
  ∃ entries name bytes ext, fs.readDir dir = .ok entries ∧ (name, Entry.file bytes) ∈ entries ∧
    (Path.splitExtension name).2 = some ext ∧ ext ∈ extensions ∧ path = Path.join dir name

end FileSystem

/-! ## Listings -/

/-- These are the files in a directory with the extensions, each once, in order. -/
structure Lists (fs : FileSystem) (dir : String) (extensions paths : List String) : Prop where
  mem_iff : ∀ path, path ∈ paths ↔ fs.HasFile dir extensions path
  sorted : paths.Pairwise (· < ·)

/-- A directory that can be read has its files listed, those with the extensions and no others. -/
theorem listFiles_lists {fs : FileSystem} (hfs : fs.root.IsTree) {dir : String}
    {entries : List (String × Entry)} (h : fs.readDir dir = .ok entries)
    (extensions : List String) :
    ∃ paths, listFiles fs dir extensions = .ok paths ∧ Lists fs dir extensions paths := by
  obtain _ | ⟨distinct, plain, -⟩ := FileSystem.isTree_of_readDir hfs h
  let chosen := entries.filter fun e =>
    !e.2.isDir && (Path.splitExtension e.1).2.any extensions.contains
  let names := (chosen.map (·.1)).mergeSort fun a b => !(b < a)
  have hlist : listFiles fs dir extensions = .ok (names.map (Path.join dir)) := by
    rw [listFiles, h]
    rfl
  have hmem : ∀ name, name ∈ names ↔ ∃ e ∈ chosen, e.1 = name := by
    intro name
    rw [List.mem_mergeSort, List.mem_map]
  have hplain : ∀ name ∈ names, '/' ∉ name.toList := by
    intro name hname
    obtain ⟨e, he, rfl⟩ := (hmem name).1 hname
    exact plain e (List.mem_filter.1 he).1
  refine ⟨_, hlist, ?_, ?_⟩
  · intro path
    rw [List.mem_map]
    constructor
    · rintro ⟨name, hname, rfl⟩
      obtain ⟨⟨n, e⟩, he, rfl⟩ := (hmem name).1 hname
      obtain ⟨hin, hchosen⟩ := List.mem_filter.1 he
      rw [Bool.and_eq_true, Option.any_eq_true] at hchosen
      obtain ⟨hfile, ext, hext, hcontains⟩ := hchosen
      cases e with
      | dir inside => cases hfile
      | file bytes => exact ⟨entries, n, bytes, ext, h, hin, hext, by simpa using hcontains, rfl⟩
    · rintro ⟨entries', name, bytes, ext, hread, hin, hext, hcontains, rfl⟩
      rw [h] at hread
      cases hread
      refine ⟨name, (hmem name).2 ⟨_, List.mem_filter.2 ⟨hin, ?_⟩, rfl⟩, rfl⟩
      simp [Entry.isDir, hext, hcontains]
  · -- Sorting gives an order that is not strict; distinct names make it strict.
    have hsorted : names.Pairwise fun a b => !decide (b < a) := by
      refine List.pairwise_mergeSort (fun a b c hab hbc => ?_) (fun a b => ?_) _
      · simp only [Bool.not_eq_true', decide_eq_false_iff_not, not_lt] at hab hbc ⊢
        exact hab.trans hbc
      · simp only [Bool.or_eq_true, Bool.not_eq_true', decide_eq_false_iff_not, not_lt]
        exact le_total a b
    have hnodup : names.Nodup :=
      (List.mergeSort_perm _ _).nodup_iff.2 (distinct.sublist (List.filter_sublist.map _))
    have hstrict : names.Pairwise fun a b => Path.join dir a < Path.join dir b := by
      refine (hsorted.and hnodup).imp_of_mem fun {a b} ha hb hab => ?_
      have hle : a ≤ b := not_lt.1 (by simpa using hab.1)
      exact Path.join_lt_join (hplain a ha) (hplain b hb) (lt_of_le_of_ne hle hab.2) dir
    exact List.pairwise_map.2 hstrict

/-- Where there is no directory, there is no file in it. -/
theorem lists_nil {fs : FileSystem} {dir : String} (h : fs.isDir dir = false)
    (extensions : List String) : Lists fs dir extensions [] := by
  refine ⟨fun path => ⟨fun hpath => (by cases hpath), ?_⟩, .nil⟩
  rintro ⟨entries, name, bytes, ext, hread, -⟩
  unfold FileSystem.readDir at hread
  unfold FileSystem.isDir at h
  split at hread
  · next hentries =>
    rw [hentries] at h
    cases h
  · cases hread
  · cases hread

/-! ## Directories that were validated -/

namespace LoadConfig

variable {c : LoadConfig} {fs : FileSystem}

/-- A valid configuration has an absolute directory with all needed subdirectories in it. -/
theorem of_validate (hon : c.enabled = true) (h : c.validate fs = .ok ()) :
    Path.isAbsolute c.dir = true ∧ ∃ entries, fs.readDir c.dir = .ok entries ∧
      ∀ sub ∈ neededSubdirectories, ∃ inside, Entry.find? sub entries = some (.dir inside) := by
  unfold validate at h
  rw [hon] at h
  cases habs : Path.isAbsolute c.dir with
  | false =>
    rw [habs] at h
    cases h
  | true =>
    cases hread : fs.readDir c.dir with
    | error fault =>
      rw [habs, hread] at h
      cases h
    | ok entries =>
      refine ⟨rfl, entries, rfl, fun sub hsub => ?_⟩
      cases hmissing : neededSubdirectories.find? fun sub =>
          !(Entry.find? sub entries).any Entry.isDir with
      | some missing =>
        simp only [habs, hread, LoadError.ofRead, bind, Except.bind, hmissing] at h
        cases h
      | none =>
        have hthere := List.find?_eq_none.1 hmissing sub hsub
        simp only [Bool.not_eq_true', Bool.not_eq_false, Option.any_eq_true] at hthere
        obtain ⟨e, he, hdir⟩ := hthere
        cases e with
        | file bytes => cases hdir
        | dir inside => exact ⟨inside, he⟩

/-- A needed subdirectory of a validated directory can be listed. -/
theorem readDir_of_validate (hon : c.enabled = true) (h : c.validate fs = .ok ()) {sub : String}
    (hsub : sub ∈ neededSubdirectories) :
    ∃ entries, fs.readDir (Path.join c.dir sub) = .ok entries := by
  obtain ⟨habs, entries, hread, hneeded⟩ := of_validate hon h
  obtain ⟨inside, hinside⟩ := hneeded sub hsub
  have hname : ∀ sub ∈ neededSubdirectories,
      '/' ∉ sub.toList ∧ sub.toList ∉ [[], ['.'], ['.', '.']] := by decide
  obtain ⟨hplain, hproper⟩ := hname sub hsub
  refine ⟨inside, ?_⟩
  rw [FileSystem.readDir, FileSystem.resolve_join habs hplain hproper hread hinside]

/-- Under a valid configuration the task scripts are listed. -/
theorem taskFiles_lists (hfs : fs.root.IsTree) (hon : c.enabled = true)
    (h : c.validate fs = .ok ()) :
    ∃ paths, c.taskFiles fs = .ok paths ∧ Lists fs c.tasksDir scriptExtensions paths := by
  have hneeded : "tasks" ∈ neededSubdirectories := by decide
  obtain ⟨entries, hread⟩ := readDir_of_validate hon h hneeded
  exact listFiles_lists hfs hread _

/-- And so are the documents with handlers. -/
theorem handlerFiles_lists (hfs : fs.root.IsTree) (hon : c.enabled = true)
    (h : c.validate fs = .ok ()) :
    ∃ paths, c.handlerFiles fs = .ok paths ∧ Lists fs c.handlersDir documentExtensions paths := by
  have hneeded : "handlers" ∈ neededSubdirectories := by decide
  obtain ⟨entries, hread⟩ := readDir_of_validate hon h hneeded
  exact listFiles_lists hfs hread _

/-- The templates need no directory: where there is none, there are no templates. -/
theorem templateFiles_lists (hfs : fs.root.IsTree) (c : LoadConfig) :
    ∃ scripts documents, c.templateFiles fs = .ok (scripts, documents) ∧
      Lists fs c.templatesDir scriptExtensions scripts ∧
      Lists fs c.templatesDir documentExtensions documents := by
  cases hdir : fs.isDir c.templatesDir with
  | false =>
    refine ⟨[], [], ?_, lists_nil hdir _, lists_nil hdir _⟩
    rw [templateFiles, hdir]
    rfl
  | true =>
    obtain ⟨entries, hread⟩ : ∃ entries, fs.readDir c.templatesDir = .ok entries := by
      unfold FileSystem.isDir at hdir
      unfold FileSystem.readDir
      split at hdir
      · next e he =>
        cases e with
        | file bytes => cases hdir
        | dir entries => exact ⟨entries, by rw [he]⟩
      · cases hdir
    obtain ⟨scripts, hscripts, hlists⟩ := listFiles_lists hfs hread scriptExtensions
    obtain ⟨documents, hdocuments, hlists'⟩ := listFiles_lists hfs hread documentExtensions
    refine ⟨scripts, documents, ?_, hlists, hlists'⟩
    rw [templateFiles, hdir, hscripts, hdocuments]
    rfl

end LoadConfig

end Tickscript
