import PatchForge.Compilation
import PatchForge.Proofs.Disk.Off

/-!
# The sources of a module

`Workshop.sources` lists the files below a folder whose names end with a
suffix. A file tree has each place once, so a folder lists no path twice
(`nodup_sources`). They are found by opening the folder and all folders
below it, which fails where the path of one of these is too long
(`below_run`).

Separate compilation makes one task of every source below the two folders
of a module, and of nothing else (`tasks_ok`): the tasks of each kind are
the sources below `source`, then those below `codebuild`. It comes to
them in four scans that share one table of objects. Together these add
the tasks of one list, `plan`, in its order (`tasks_run`), so what they
do to the table is told by what adding one task does.
-/

namespace PatchForge

open Work Disk

/-- The entries below a folder, in order. -/
def Workshop.below (w : Workshop) (p : Path) : List (Path × Entry) :=
  match w.disk.find w.here p with
  | .ok (place, _) =>
    ((w.disk.below place).map fun e => ((⟨p.root, p.names ++ e.1⟩ : Path), e.2)).mergeSort
      fun a b => a.1.le b.1
  | .error _ => []

/-- The path is that of a folder below another folder. -/
def Workshop.FolderBelow (w : Workshop) (folder p : Path) : Prop :=
  hasNull folder = false ∧ ∃ place names, w.disk.find w.here folder = .ok (place, .folder)
    ∧ names ≠ [] ∧ (place ++ names, .folder) ∈ w.disk.entries
    ∧ p = ⟨folder.root, folder.names ++ names⟩

/-- Each folder below the folder has a path that can be opened. -/
def Workshop.Opens (w : Workshop) (folder : Path) : Prop :=
  ∀ p, w.FolderBelow folder p → ¬ p.TooLong

theorem Workshop.mem_below {w : Workshop} {folder p : Path} {place : Place} {found entry : Entry}
    (hfind : w.disk.find w.here folder = .ok (place, found)) :
    (p, entry) ∈ w.below folder ↔ ∃ names, names ≠ [] ∧ (place ++ names, entry) ∈ w.disk.entries
      ∧ p = ⟨folder.root, folder.names ++ names⟩ := by
  rw [Workshop.below, hfind, List.mem_mergeSort, List.mem_map]
  constructor
  · rintro ⟨x, hx, heq⟩
    obtain ⟨rfl, rfl⟩ := Prod.mk.inj heq
    obtain ⟨hne, hentry⟩ := Disk.mem_below.mp hx
    exact ⟨x.1, hne, hentry, rfl⟩
  · rintro ⟨names, hne, hentry, rfl⟩
    exact ⟨(names, entry), Disk.mem_below.mpr ⟨hne, hentry⟩, rfl⟩

theorem Workshop.folderBelow_iff {w : Workshop} {folder p : Path} :
    w.FolderBelow folder p ↔ w.hasFolder folder = true ∧ (p, .folder) ∈ w.below folder := by
  rw [Workshop.hasFolder_iff]
  constructor
  · rintro ⟨hnull, place, names, hfind, hrest⟩
    exact ⟨⟨hnull, place, hfind⟩, (Workshop.mem_below hfind).mpr ⟨names, hrest⟩⟩
  · rintro ⟨⟨hnull, place, hfind⟩, hmem⟩
    obtain ⟨names, hrest⟩ := (Workshop.mem_below hfind).mp hmem
    exact ⟨hnull, place, names, hfind, hrest⟩

theorem Workshop.opens_of_not_folder {w : Workshop} {folder : Path}
    (h : w.hasFolder folder = false) : w.Opens folder := by
  intro p hbelow
  rw [(Workshop.folderBelow_iff.mp hbelow).1] at h
  cases h

/-- In a tree in which every entry can be reached, every folder can be opened. -/
theorem Workshop.opens_of_reachable {w : Workshop} {folder : Path} (hdisk : w.disk.Reachable)
    (hdown : folder.Down) : w.Opens folder := by
  rintro p ⟨-, place, names, hfind, -, hentry, rfl⟩
  obtain ⟨rfl, -⟩ := place_of_follow hdown (find_ok.mp hfind).1
  rw [hdown.top]
  exact not_tooLong_of_follow (hdisk _ hentry).2

/-- What is below a folder is listed, or one of the folders there cannot be opened. -/
theorem Work.below_run {folder : Path} {w : Workshop} (hfolder : w.hasFolder folder = true) :
    w.Opens folder ∧ (Work.below folder).run w = (.ok ((w.below folder).map (·.1)), w)
      ∨ ∃ p, w.FolderBelow folder p ∧ p.TooLong
        ∧ (Work.below folder).run w = (.error (.disk .nameTooLong p), w) := by
  obtain ⟨hnull, place, hfind⟩ := Workshop.hasFolder_iff.mp hfolder
  have hthere : (isFolder folder).run w = (.ok true, w) := by
    rcases isFolder_run folder w with hrun | ⟨hlong, -⟩
    · rwa [hfolder] at hrun
    · rw [Workshop.hasFolder_of_tooLong hlong] at hfolder
      cases hfolder
  have hbelow : ((w.disk.below place).map fun e =>
      ((⟨folder.root, folder.names ++ e.1⟩ : Path), e.2)).mergeSort (fun a b => a.1.le b.1)
      = w.below folder := by
    rw [Workshop.below, hfind]
  rw [Work.below, run_bind, hthere]
  simp only [Bool.not_true, Bool.false_eq_true, if_false, run_bind, run_get, hfind, hbelow]
  cases hlong : (w.below folder).find? fun e => e.2 = .folder && decide e.1.TooLong with
  | none =>
      refine Or.inl ⟨fun p hp hlong' => ?_, rfl⟩
      have hshort := List.find?_eq_none.mp hlong _ (Workshop.folderBelow_iff.mp hp).2
      simp [hlong'] at hshort
  | some e =>
      obtain ⟨p, entry⟩ := e
      have hboth := List.find?_some hlong
      simp only [Bool.and_eq_true, decide_eq_true_eq] at hboth
      obtain ⟨rfl, htoo⟩ := hboth
      have hmem := List.mem_of_find?_eq_some hlong
      exact Or.inr ⟨p, Workshop.folderBelow_iff.mpr ⟨hfolder, hmem⟩, htoo, rfl⟩

/-- The paths below a folder whose names end with a suffix; none if there is no such folder. -/
def Workshop.sources (w : Workshop) (folder : Path) (suffix : String) : List Path :=
  if w.hasFolder folder then
    ((w.below folder).map (·.1)).filter fun p => suffix.toList.isSuffixOf p.name.toList
  else []

/-- The names lead from a folder to an entry below it. -/
def Workshop.Below (w : Workshop) (folder : Path) (names : List String) : Prop :=
  names ≠ [] ∧ hasNull folder = false ∧ ∃ place entry,
    w.disk.find w.here folder = .ok (place, .folder) ∧ (place ++ names, entry) ∈ w.disk.entries

theorem Workshop.mem_sources {w : Workshop} {folder p : Path} {suffix : String} :
    p ∈ w.sources folder suffix ↔ ∃ names, w.Below folder names
      ∧ p = ⟨folder.root, folder.names ++ names⟩ ∧ suffix.toList <:+ p.name.toList := by
  unfold Workshop.sources Workshop.Below
  constructor
  · intro h
    split at h
    · rename_i hfolder
      obtain ⟨hnull, place, hfind⟩ := Workshop.hasFolder_iff.mp hfolder
      obtain ⟨hmem, hsuffix⟩ := List.mem_filter.mp h
      obtain ⟨⟨p, entry⟩, hfound, rfl⟩ := List.mem_map.mp hmem
      obtain ⟨names, hne, hentry, rfl⟩ := (Workshop.mem_below hfind).mp hfound
      exact ⟨names, ⟨hne, hnull, place, entry, hfind, hentry⟩, rfl,
        List.isSuffixOf_iff_suffix.mp hsuffix⟩
    · cases h
  · rintro ⟨names, ⟨hne, hnull, place, entry, hfind, hentry⟩, rfl, hsuffix⟩
    rw [if_pos (Workshop.hasFolder_iff.mpr ⟨hnull, place, hfind⟩)]
    refine List.mem_filter.mpr ⟨?_, List.isSuffixOf_iff_suffix.mpr hsuffix⟩
    exact List.mem_map.mpr ⟨(⟨folder.root, folder.names ++ names⟩, entry),
      (Workshop.mem_below hfind).mpr ⟨names, hne, hentry, rfl⟩, rfl⟩

/-! ## No path twice -/

theorem Disk.nodup_below {d : Disk} (h : (d.entries.map Prod.fst).Nodup) (place : Place) :
    ((d.below place).map Prod.fst).Nodup := by
  have hmap : (d.below place).map Prod.fst = (d.entries.map Prod.fst).filterMap fun q =>
      if place.isPrefixOf q && q ≠ place then some (q.drop place.length) else none := by
    unfold Disk.below
    rw [List.map_filterMap, List.filterMap_map]
    congr 1
    funext e
    dsimp only [Function.comp]
    split <;> rfl
  rw [hmap]
  refine h.filterMap fun a b q ha hb => ?_
  simp only [Option.mem_def, Option.ite_none_right_eq_some, Bool.and_eq_true,
    Option.some.injEq] at ha hb
  obtain ⟨a', rfl⟩ := List.isPrefixOf_iff_prefix.mp ha.1.1
  obtain ⟨b', rfl⟩ := List.isPrefixOf_iff_prefix.mp hb.1.1
  rw [List.drop_left] at ha hb
  rw [ha.2, hb.2]

theorem Workshop.nodup_sources {w : Workshop} (h : (w.disk.entries.map Prod.fst).Nodup)
    (folder : Path) (suffix : String) : (w.sources folder suffix).Nodup := by
  have hbelow : ((w.below folder).map Prod.fst).Nodup := by
    unfold Workshop.below
    split
    · rename_i place entry _
      refine (((List.mergeSort_perm _ _).map Prod.fst).nodup_iff).mpr ?_
      have hnames := Disk.nodup_below h place
      have hinj : Function.Injective fun names : List String =>
          (⟨folder.root, folder.names ++ names⟩ : Path) := by
        intro a b hab
        exact List.append_cancel_left (congrArg Path.names hab)
      have hpaths := hnames.map hinj
      rw [List.map_map] at hpaths ⊢
      exact hpaths
    · exact List.nodup_nil
  unfold Workshop.sources
  split
  · exact hbelow.filter _
  · exact List.nodup_nil

/-! ## Where sources lie -/

theorem Workshop.prefix_of_mem_sources {w : Workshop} {folder p : Path} {suffix : String}
    (h : p ∈ w.sources folder suffix) : folder.root = p.root ∧ folder.names <+: p.names := by
  obtain ⟨names, -, rfl, -⟩ := mem_sources.mp h
  exact ⟨rfl, List.prefix_append ..⟩

/-- One path goes on from the other. -/
def Path.Nested (p q : Path) : Prop :=
  p.root = q.root ∧ (p.names <+: q.names ∨ q.names <+: p.names)

theorem Path.Nested.symm {p q : Path} (h : p.Nested q) : q.Nested p := ⟨h.1.symm, h.2.symm⟩

theorem Workshop.nested_of_mem_sources {w : Workshop} {a b p : Path} {suffix suffix' : String}
    (ha : p ∈ w.sources a suffix) (hb : p ∈ w.sources b suffix') : a.Nested b := by
  obtain ⟨hroot, hnames⟩ := prefix_of_mem_sources ha
  obtain ⟨hroot', hnames'⟩ := prefix_of_mem_sources hb
  exact ⟨hroot.trans hroot'.symm, List.prefix_or_prefix_of_prefix hnames hnames'⟩

theorem Workshop.disjoint_sources {w : Workshop} {a b : Path} (h : ¬ a.Nested b)
    (suffix : String) : (w.sources a suffix).Disjoint (w.sources b suffix) :=
  fun _ ha hb => h (nested_of_mem_sources ha hb)

namespace Compilation

variable {m : Module} {t t' : Tasks} {folder : Path} {w w' : Workshop}

theorem sourcesBelow_run (hfolder : w.hasFolder folder = true) (suffix : String) :
    w.Opens folder ∧ (sourcesBelow folder suffix).run w = (.ok (w.sources folder suffix), w)
      ∨ ∃ p, w.FolderBelow folder p ∧ p.TooLong
        ∧ (sourcesBelow folder suffix).run w = (.error (.disk .nameTooLong p), w) := by
  rw [sourcesBelow, run_bind, Workshop.sources, if_pos hfolder]
  rcases Work.below_run hfolder with ⟨hopens, hrun⟩ | ⟨p, hbelow, hlong, hrun⟩
  · rw [hrun]
    exact Or.inl ⟨hopens, rfl⟩
  · rw [hrun]
    exact Or.inr ⟨p, hbelow, hlong, rfl⟩

/-! ## Adding tasks -/

/-- The sources of the tasks of one kind. -/
def Tasks.sources (t : Tasks) (assembly : Bool) : List Path :=
  (if assembly then t.assemblies else t.compilations).map (·.1)

/-- All tasks, compilations first. -/
def Tasks.all (t : Tasks) : List Task := t.compilations ++ t.assemblies

/-- The tasks of one kind. -/
def Tasks.ofKind (t : Tasks) (assembly : Bool) : List Task :=
  if assembly then t.assemblies else t.compilations

/-- Adds tasks one after the other, each to those of its kind. -/
def Tasks.addAll (m : Module) (t : Tasks) (new : List (Bool × Task)) :
    Except ToolchainFault Tasks :=
  new.foldlM (fun t e => t.add m e.1 e.2.1 e.2.2) t

/-- The new tasks are those that were added, in order. -/
def Tasks.Adds (t : Tasks) (new : List (Bool × Task)) (t' : Tasks) : Prop :=
  ∀ assembly, t'.ofKind assembly
    = t.ofKind assembly ++ (new.filter fun e => e.1 = assembly).map (·.2)

theorem Tasks.Adds.perm {new : List (Bool × Task)} (h : t.Adds new t') :
    t'.all.Perm (t.all ++ new.map (·.2)) := by
  have hkinds : ((new.filter fun e => e.1 = false).map (·.2)
      ++ (new.filter fun e => e.1 = true).map (·.2)).Perm (new.map (·.2)) := by
    rw [← List.map_append]
    refine List.Perm.map _ ?_
    have hsplit := List.filter_append_perm (fun e : Bool × Task => decide (e.1 = false)) new
    simpa using hsplit
  have hcompilations : t'.compilations = _ := h false
  have hassemblies : t'.assemblies = _ := h true
  rw [all, all, hcompilations, hassemblies, List.append_assoc, List.append_assoc]
  refine List.Perm.append_left _ ?_
  exact (List.perm_append_comm_assoc ..).trans (List.Perm.append_left _ hkinds)

theorem Tasks.add_ok {assembly : Bool} {source object : Path}
    (h : t.add m assembly source object = .ok t') :
    t.Adds [(assembly, source, object)] t' ∧ object ∉ t.all.map (·.2) := by
  unfold add at h
  split at h
  · cases h
  · rename_i hfree
    cases h
    constructor
    · intro kind
      cases assembly <;> cases kind <;> simp [ofKind]
    · rw [owner?, Option.map_eq_none_iff, List.find?_eq_none] at hfree
      intro hmem
      obtain ⟨e, he, rfl⟩ := List.mem_map.mp hmem
      simpa using hfree e he

theorem Tasks.add_error {assembly : Bool} {source object : Path} {fault : ToolchainFault}
    (h : t.add m assembly source object = .error fault) :
    ∃ first, (first, object) ∈ t.all ∧ fault = .sameObject m.name first source object := by
  unfold add at h
  split at h
  · rename_i first hfirst
    cases h
    refine ⟨first, ?_, rfl⟩
    obtain ⟨e, hfound, rfl⟩ := Option.map_eq_some_iff.mp hfirst
    have hobject : e.2 = object := by simpa using List.find?_some hfound
    rw [← hobject]
    exact List.mem_of_find?_eq_some hfound
  · cases h

theorem Tasks.addAll_ok : ∀ {new : List (Bool × Task)} {t : Tasks},
    addAll m t new = .ok t' →
      t.Adds new t' ∧ ((t.all.map (·.2)).Nodup → (t'.all.map (·.2)).Nodup)
  | [], t, h => by
      cases h
      exact ⟨fun assembly => by simp, id⟩
  | e :: new, t, h => by
      rw [addAll, List.foldlM_cons] at h
      obtain ⟨t₁, hadd, hrest⟩ := Result.bind_ok.mp h
      obtain ⟨hone, hfree⟩ := add_ok hadd
      obtain ⟨hmore, hnodup⟩ := addAll_ok hrest
      refine ⟨fun assembly => ?_, fun hobjects => hnodup ?_⟩
      · rw [hmore, hone, List.append_assoc, ← List.map_append, ← List.filter_append]
        rfl
      · rw [(hone.perm.map _).nodup_iff, List.map_append]
        simpa using hobjects.concat hfree

theorem Tasks.addAll_error {fault : ToolchainFault} : ∀ {new : List (Bool × Task)} {t : Tasks},
    addAll m t new = .error fault → ∃ before assembly source object after first,
      new = before ++ (assembly, source, object) :: after
        ∧ (first, object) ∈ t.all ++ before.map (·.2)
        ∧ fault = .sameObject m.name first source object
  | [], t, h => by cases h
  | (assembly, source, object) :: new, t, h => by
      rw [addAll, List.foldlM_cons] at h
      cases hadd : t.add m assembly source object with
      | error fault' =>
          rw [hadd] at h
          cases h
          obtain ⟨first, hfirst, rfl⟩ := add_error hadd
          exact ⟨[], assembly, source, object, new, first, rfl, by simpa using hfirst, rfl⟩
      | ok t₁ =>
          rw [hadd] at h
          obtain ⟨before, a, s, o, after, first, rfl, hfirst, rfl⟩ := addAll_error h
          refine ⟨(assembly, source, object) :: before, a, s, o, after, first, rfl, ?_, rfl⟩
          rw [List.mem_append, (add_ok hadd).1.perm.mem_iff] at hfirst
          simpa [or_assoc] using hfirst

/-! ## The scans together -/

/-- The tasks of the sources with a suffix below a folder. -/
def planBelow (w : Workshop) (m : Module) (folder : Path) (kind : String × Bool) :
    List (Bool × Task) :=
  (w.sources folder kind.1).map fun p => (kind.2, p, objectOf m folder p)

/-- The tasks of a folder, as they are added. -/
def planOf (w : Workshop) (m : Module) (folder : Path) : List (Bool × Task) :=
  sourceKinds.flatMap (planBelow w m folder)

/-- The tasks of a module, as they are added. -/
def plan (w : Workshop) (m : Module) : List (Bool × Task) :=
  [m.sourceDir, m.codebuildDir].flatMap (planOf w m)

/-- The planned tasks of one kind. -/
theorem plan_ofKind {kind : String × Bool} (hkind : kind ∈ sourceKinds) :
    ((plan w m).filter fun e => e.1 = kind.2).map (·.2)
      = (w.sources m.sourceDir kind.1).map (fun p => (p, objectOf m m.sourceDir p))
        ++ (w.sources m.codebuildDir kind.1).map fun p => (p, objectOf m m.codebuildDir p) := by
  have hone : ∀ folder, ((planOf w m folder).filter fun e => e.1 = kind.2).map (·.2)
      = (w.sources folder kind.1).map fun p => (p, objectOf m folder p) := by
    intro folder
    simp only [sourceKinds, List.mem_cons, List.not_mem_nil, or_false] at hkind
    rcases hkind with rfl | rfl
    · simp [planOf, planBelow, sourceKinds, List.filter_map, Function.comp_def]
    · simp [planOf, planBelow, sourceKinds, List.filter_map, Function.comp_def]
  rw [← hone, ← hone, ← List.map_append, ← List.filter_append]
  simp [plan]

theorem mem_plan_tasks {e : Task} :
    e ∈ (plan w m).map (·.2) ↔ ∃ kind ∈ sourceKinds, ∃ folder ∈ [m.sourceDir, m.codebuildDir],
      e.1 ∈ w.sources folder kind.1 ∧ e.2 = objectOf m folder e.1 := by
  obtain ⟨source, object⟩ := e
  constructor
  · intro h
    obtain ⟨x, hx, heq⟩ := List.mem_map.mp h
    obtain ⟨folder, hfolder, hbelow⟩ := List.mem_flatMap.mp hx
    obtain ⟨kind, hkind, hplanned⟩ := List.mem_flatMap.mp hbelow
    obtain ⟨p, hp, rfl⟩ := List.mem_map.mp hplanned
    cases heq
    exact ⟨kind, hkind, folder, hfolder, hp, rfl⟩
  · rintro ⟨kind, hkind, folder, hfolder, hsource, hobject⟩
    dsimp only at hsource hobject
    subst hobject
    refine List.mem_map.mpr ⟨(kind.2, source, objectOf m folder source), ?_, rfl⟩
    refine List.mem_flatMap.mpr ⟨folder, hfolder, List.mem_flatMap.mpr ⟨kind, hkind, ?_⟩⟩
    exact List.mem_map.mpr ⟨source, hsource, rfl⟩

theorem planOf_of_not_folder (h : w.hasFolder folder = false) : planOf w m folder = [] := by
  simp [planOf, planBelow, Workshop.sources, h]

/-- A piece of work that adds tasks to those that are there. -/
def Tasks.adding (m : Module) (t : Tasks) (new : List (Bool × Task)) : Work Tasks :=
  ofExcept .toolchain (addAll m t new)

theorem Tasks.addAll_append {new more : List (Bool × Task)} :
    addAll m t (new ++ more) = addAll m t new >>= fun t' => addAll m t' more :=
  List.foldlM_append

/-- Adding some tasks and then more is adding them all. -/
theorem Tasks.adding_append {new more : List (Bool × Task)} {x : Work Tasks}
    {k : Tasks → Work Tasks} (hx : x.run w = (adding m t new).run w)
    (hk : ∀ t', (k t').run w = (adding m t' more).run w) :
    (x >>= k).run w = (adding m t (new ++ more)).run w := by
  rw [run_bind, hx, adding, adding, addAll_append]
  cases addAll m t new with
  | ok t' => exact hk t'
  | error fault => rfl

theorem Tasks.scan_run (hfolder : w.hasFolder folder = true) (t : Tasks)
    (kind : String × Bool) :
    w.Opens folder ∧ (scan m folder t kind).run w = (adding m t (planBelow w m folder kind)).run w
      ∨ ∃ p, w.FolderBelow folder p ∧ p.TooLong
        ∧ (scan m folder t kind).run w = (.error (.disk .nameTooLong p), w) := by
  rw [scan, run_bind]
  rcases sourcesBelow_run hfolder kind.1 with ⟨hopens, hrun⟩ | ⟨p, hbelow, hlong, hrun⟩
  · rw [hrun]
    dsimp only
    refine Or.inl ⟨hopens, ?_⟩
    rw [adding, addAll, planBelow, List.foldlM_map]
  · rw [hrun]
    exact Or.inr ⟨p, hbelow, hlong, rfl⟩

/-- Where one scan of a folder goes through, so do all. -/
theorem Tasks.scans_run (hfolder : w.hasFolder folder = true) (hopens : w.Opens folder) :
    ∀ (kinds : List (String × Bool)) (t : Tasks), (kinds.foldlM (scan m folder) t).run w
      = (adding m t (kinds.flatMap (planBelow w m folder))).run w
  | [], t => rfl
  | kind :: kinds, t => by
      rw [List.foldlM_cons, List.flatMap_cons]
      rcases scan_run (m := m) hfolder t kind with ⟨-, hrun⟩ | ⟨p, hbelow, hlong, -⟩
      · exact adding_append hrun fun t' => scans_run hfolder hopens kinds t'
      · exact (hopens p hbelow hlong).elim

theorem Tasks.scanFolder_of_isFolder {there : Bool}
    (h : (isFolder folder).run w = (.ok there, w)) (t : Tasks) :
    w.Opens folder ∧ (scanFolder m t folder).run w = (adding m t (planOf w m folder)).run w
      ∨ ∃ p, w.FolderBelow folder p ∧ p.TooLong
        ∧ (scanFolder m t folder).run w = (.error (.disk .nameTooLong p), w) := by
  obtain ⟨hthere, -⟩ := isFolder_ok h
  rw [scanFolder, run_bind, h]
  cases there with
  | false =>
      rw [planOf_of_not_folder hthere.symm]
      exact Or.inl ⟨Workshop.opens_of_not_folder hthere.symm, rfl⟩
  | true =>
      dsimp only
      rw [if_pos rfl]
      rcases scan_run (m := m) hthere.symm t (".cpp", false) with
        ⟨hopens, -⟩ | ⟨p, hbelow, hlong, hscan⟩
      · exact Or.inl ⟨hopens, scans_run hthere.symm hopens sourceKinds t⟩
      · refine Or.inr ⟨p, hbelow, hlong, ?_⟩
        rw [sourceKinds, List.foldlM_cons, run_bind, hscan]

/-- The path is why the folder cannot be searched: its own, or that of a folder below it, if
that is too long. -/
def Bars (w : Workshop) (folder p : Path) : Prop :=
  p.TooLong ∧ (p = folder ∨ w.FolderBelow folder p)

theorem Tasks.scanFolder_run (t : Tasks) (folder : Path) :
    w.Opens folder ∧ (scanFolder m t folder).run w = (adding m t (planOf w m folder)).run w
      ∨ ∃ p, Bars w folder p
        ∧ (scanFolder m t folder).run w = (.error (.disk .nameTooLong p), w) := by
  rcases isFolder_run folder w with hthere | ⟨hlong, hthere⟩
  · refine (scanFolder_of_isFolder hthere t).imp_right ?_
    rintro ⟨p, hbelow, hlong, hrun⟩
    exact ⟨p, ⟨hlong, Or.inr hbelow⟩, hrun⟩
  · refine Or.inr ⟨folder, ⟨hlong, Or.inl rfl⟩, ?_⟩
    rw [scanFolder, run_bind, hthere]

/-- The folders below those of the module's sources can all be opened. -/
def Openable (w : Workshop) (m : Module) : Prop :=
  ∀ folder ∈ [m.sourceDir, m.codebuildDir], w.Opens folder

/-- The tasks of a module are its plan, added to none, unless a folder cannot be searched. Where
it is one of the two folders itself, that folder has no sources. -/
theorem tasks_run (m : Module) (w : Workshop) :
    ((tasks m).run w = (Tasks.adding m {} (plan w m)).run w
        ∧ ∀ t, Tasks.addAll m {} (plan w m) = .ok t → Openable w m)
      ∨ ∃ folder ∈ [m.sourceDir, m.codebuildDir], ∃ p, Bars w folder p
        ∧ (tasks m).run w = (.error (.disk .nameTooLong p), w)
        ∧ (Openable w m → ∃ t, Tasks.addAll m {} (plan w m) = .ok t) := by
  have hplan : plan w m = planOf w m m.sourceDir ++ planOf w m m.codebuildDir := by
    simp [plan]
  have hnone : ∀ {folder : Path}, folder.TooLong → planOf w m folder = [] :=
    fun hlong => planOf_of_not_folder (Workshop.hasFolder_of_tooLong hlong w)
  have htasks : tasks m = Tasks.scanFolder m {} m.sourceDir >>= fun t =>
      Tasks.scanFolder m t m.codebuildDir >>= pure := rfl
  simp only [bind_pure] at htasks
  rw [htasks, hplan]
  have hsourceMem : m.sourceDir ∈ [m.sourceDir, m.codebuildDir] := List.mem_cons_self ..
  have hcodebuildMem : m.codebuildDir ∈ [m.sourceDir, m.codebuildDir] :=
    List.mem_cons_of_mem _ (List.mem_singleton_self _)
  rcases Tasks.scanFolder_run (w := w) (m := m) {} m.sourceDir with
    ⟨hopens, hsource⟩ | ⟨p, hbars, hsource⟩
  · cases hadd : Tasks.addAll m {} (planOf w m m.sourceDir) with
    | error fault =>
        -- two sources of the first folder collide, and the second is not searched at all
        left
        rw [run_bind, hsource, Tasks.adding, Tasks.adding, Tasks.addAll_append, hadd]
        refine ⟨rfl, ?_⟩
        rintro t ⟨⟩
    | ok t =>
        rcases Tasks.scanFolder_run (w := w) (m := m) t m.codebuildDir with
          ⟨hopens', hrun⟩ | ⟨p, hbars, hrun⟩
        · left
          rw [run_bind, hsource, Tasks.adding, Tasks.adding, Tasks.addAll_append, hadd]
          refine ⟨hrun, fun _ _ folder hfolder => ?_⟩
          rcases List.mem_pair.mp hfolder with rfl | rfl
          · exact hopens
          · exact hopens'
        · refine Or.inr ⟨m.codebuildDir, hcodebuildMem, p, hbars, ?_, fun hopenable => ⟨t, ?_⟩⟩
          · rw [run_bind, hsource, Tasks.adding, hadd]
            exact hrun
          · rcases hbars.2 with rfl | hbelow
            · rw [hnone hbars.1, List.append_nil, hadd]
            · exact (hopenable _ hcodebuildMem p hbelow hbars.1).elim
  · refine Or.inr ⟨m.sourceDir, hsourceMem, p, hbars, ?_, fun hopenable => ⟨{}, ?_⟩⟩
    · rw [run_bind, hsource]
    · rcases hbars.2 with rfl | hbelow
      · -- the name of the other folder is longer still
        have hlong : m.codebuildDir.TooLong :=
          Path.TooLong.of_name (by decide) (by decide) (by decide) hbars.1
        rw [hnone hbars.1, hnone hlong]
        rfl
      · exact (hopenable _ hsourceMem p hbelow hbars.1).elim

/-- What was found is the plan, each task with those of its kind, and no two build one object. -/
theorem adds_of_tasks (h : (tasks m).run w = (.ok t, w')) :
    w' = w ∧ Tasks.Adds {} (plan w m) t ∧ (t.all.map (·.2)).Nodup := by
  rcases tasks_run m w with ⟨hrun, -⟩ | ⟨folder, -, p, -, hrun, -⟩
  · rw [hrun] at h
    obtain ⟨hadd, rfl⟩ := ofExcept_ok.mp h
    obtain ⟨hadds, hobjects⟩ := Tasks.addAll_ok hadd
    exact ⟨rfl, hadds, hobjects List.nodup_nil⟩
  · rw [hrun] at h
    cases h

/-- The tasks of a module are its sources below `source`, then those below `codebuild`. -/
theorem tasks_ok (h : (tasks m).run w = (.ok t, w')) :
    w' = w ∧ ∀ kind ∈ sourceKinds,
      t.sources kind.2 = w.sources m.sourceDir kind.1 ++ w.sources m.codebuildDir kind.1 := by
  obtain ⟨rfl, hadds, -⟩ := adds_of_tasks h
  refine ⟨rfl, fun kind hkind => ?_⟩
  have hkinds : t.sources kind.2 = (t.ofKind kind.2).map (·.1) := rfl
  rw [hkinds, hadds]
  rw [plan_ofKind hkind]
  cases kind.2 <;> simp [Tasks.ofKind, Function.comp_def]

theorem isFolder_of_tasks (h : (tasks m).run w = (.ok t, w')) :
    ∃ there w₁, (isFolder m.sourceDir).run w = (.ok there, w₁) := by
  obtain ⟨_, _, hsource, -⟩ := bind_ok.mp h
  obtain ⟨there, w₁, hthere, -⟩ := bind_ok.mp hsource
  exact ⟨there, w₁, hthere⟩

/-- To find the tasks, all folders below those of the sources were opened. -/
theorem openable_of_tasks (h : (tasks m).run w = (.ok t, w')) : Openable w m := by
  rcases tasks_run m w with ⟨hrun, hopenable⟩ | ⟨folder, -, p, -, hrun, -⟩
  · rw [hrun] at h
    exact hopenable t (ofExcept_ok.mp h).1
  · rw [hrun] at h
    cases h

end Compilation

end PatchForge
