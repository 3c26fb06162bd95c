import PatchForge.Proofs.Compilation.Folders
import PatchForge.Proofs.Compilation.Sources
import PatchForge.Proofs.Discovery.Account
import PatchForge.Proofs.Work.Processes

/-!
# Modules that are ready to be built

What has to hold of a module so that nothing but a process can stop its
compilation is `Ready`: its exporters and its tasks are known, its build
folder can be removed if it is there, and the folders of its objects can
be made. Every module of a loaded set is, if the tree is one in which
every entry can be reached and no file is in a build folder's place
(`Ready.of_loaded`).

Building one module changes nothing outside its build folder (`Rebuilt`).
So where the folders of two modules are not nested, the one stays ready
while the other is built (`Ready.rebuilt`), and is compiled with the same
include folders.
-/

namespace PatchForge

open Work Disk

/-! ## Folders of loaded modules -/

/-- A name that the folders of a module may have. -/
def isFolderName (name : String) : Bool :=
  name ≠ "" && name ≠ ".." && !holdsNull name
    && name.utf8ByteSize ≤ Module.declarationName.utf8ByteSize

theorem Module.Loaded.down {m : Module} (h : m.Loaded) : m.folder.Down := by
  obtain ⟨folder, w, w', hload⟩ := h
  rw [Discovery.loadModule_ok_folder hload]
  exact ⟨rfl, Path.not_mem_collapse _⟩

theorem Module.Loaded.usable {m : Module} (h : m.Loaded) (name : String)
    (hname : isFolderName name = true) :
    (⟨m.folder.root, m.folder.names ++ [name]⟩ : Path).Usable := by
  simp only [isFolderName, Bool.and_eq_true, decide_eq_true_eq, Bool.not_eq_true'] at hname
  obtain ⟨⟨⟨hempty, hup⟩, hnull⟩, hsize⟩ := hname
  refine ⟨⟨h.down.top, ?_⟩, ?_, h.not_tooLong_child hempty hsize⟩
  · simpa [h.down.plain] using Ne.symm hup
  · have hfolder := h.noNull
    unfold hasNull at hfolder ⊢
    rw [List.any_append, hfolder]
    simpa using hnull

/-! ## Tasks and what they come from -/

namespace Compilation

variable {m : Module} {t t' : Tasks} {folder : Path} {w w' : Workshop} {e : Task}

/-- The task is that of a source below the folder. -/
def IsTaskOf (w : Workshop) (m : Module) (folder : Path) (e : Task) : Prop :=
  (∃ suffix, e.1 ∈ w.sources folder suffix) ∧ e.2 = objectOf m folder e.1

theorem isTaskOf_of_tasks (h : (tasks m).run w = (.ok t, w')) (he : e ∈ t.all) :
    IsTaskOf w m m.sourceDir e ∨ IsTaskOf w m m.codebuildDir e := by
  obtain ⟨rfl, hadds, -⟩ := adds_of_tasks h
  have hplanned := hadds.perm.mem_iff.mp he
  obtain ⟨kind, -, folder, hfolder, hsource, hobject⟩ := mem_plan_tasks.mp hplanned
  rcases List.mem_pair.mp hfolder with rfl | rfl
  · exact Or.inl ⟨⟨kind.1, hsource⟩, hobject⟩
  · exact Or.inr ⟨⟨kind.1, hsource⟩, hobject⟩

/-- A source is an entry of the tree, below its folder. -/
theorem entry_of_source (hfolder : folder.Down) {p : Path} {suffix : String}
    (hp : p ∈ w.sources folder suffix) : p.root = .top
      ∧ ∃ names entry, names ≠ [] ∧ p.names = folder.names ++ names
        ∧ (p.names, entry) ∈ w.disk.entries := by
  obtain ⟨names, ⟨hne, -, place, entry, hfind, hentry⟩, rfl, -⟩ := Workshop.mem_sources.mp hp
  obtain ⟨rfl, -⟩ := place_of_follow hfolder (find_ok.mp hfind).1
  exact ⟨hfolder.top, names, entry, hne, rfl, hentry⟩

/-! ## Building one module -/

/-- Nothing changed but at these places and below them, what was said and the processes. -/
structure Rebuilt (tops : List Place) (w w' : Workshop) : Prop where
  aside : w'.aside = w.aside
  off : SameOff tops w.disk w'.disk

namespace Rebuilt

variable {tops : List Place} {p : Path}

theorem find (h : Rebuilt tops w w') (hp : p.Down) (hoff : Under tops p.names = false) :
    w'.disk.find w'.here p = w.disk.find w.here p := h.off.find hp hoff

theorem hasFolder (h : Rebuilt tops w w') (hp : p.Down) (hoff : Under tops p.names = false) :
    w'.hasFolder p = w.hasFolder p := by
  rw [Workshop.hasFolder, Workshop.hasFolder, h.find hp hoff]

theorem below (h : Rebuilt tops w w') (hp : p.Down)
    (hoff : ∀ q, p.names <+: q → Under tops q = false) : w'.below p = w.below p := by
  unfold Workshop.below
  rw [h.find hp (hoff _ List.prefix_rfl)]
  cases hfind : w.disk.find w.here p with
  | error e => rfl
  | ok found =>
      obtain ⟨place, entry⟩ := found
      obtain ⟨rfl, -⟩ := place_of_follow hp (find_ok.mp hfind).1
      dsimp only
      rw [h.off.below fun q hq _ => hoff q hq]

/-- The tasks of a module are found again if its own folders are left alone. -/
theorem tasks (h : Rebuilt tops w w') (hsource : m.sourceDir.Down)
    (hcodebuild : m.codebuildDir.Down)
    (hoff : ∀ q, m.folder.names <+: q → Under tops q = false)
    (ht : (Compilation.tasks m).run w = (.ok t, w)) :
    (Compilation.tasks m).run w' = (.ok t, w') := by
  have hscan : ∀ {folder : Path} {t t' : Tasks} {w₁ : Workshop}, folder.Down →
      m.folder.names <+: folder.names → (Tasks.scanFolder m t folder).run w = (.ok t', w₁) →
      w₁ = w ∧ (Tasks.scanFolder m t folder).run w' = (.ok t', w') := by
    intro folder t t' w₁ hdown hbelow hrun
    have hoff' : ∀ q, folder.names <+: q → Under tops q = false :=
      fun q hq => hoff q (hbelow.trans hq)
    obtain ⟨there, w₂, hthere, -⟩ := bind_ok.mp hrun
    obtain ⟨-, rfl⟩ := isFolder_ok hthere
    have hthere' : (isFolder folder).run w' = (.ok there, w') := by
      rw [isFolder_congr (h.find hdown (hoff' _ List.prefix_rfl)), hthere]
    have hfolder := h.hasFolder hdown (hoff' _ List.prefix_rfl)
    have hbelows := h.below hdown hoff'
    have hplan : planOf w' m folder = planOf w₂ m folder := by
      unfold planOf planBelow Workshop.sources
      rw [hfolder, hbelows]
    have hfolders : ∀ p, w'.FolderBelow folder p ↔ w₂.FolderBelow folder p := fun p => by
      rw [Workshop.folderBelow_iff, hfolder, hbelows, ← Workshop.folderBelow_iff]
    rcases Tasks.scanFolder_of_isFolder (m := m) hthere t with ⟨hopens, hscan⟩ | ⟨p, -, -, hscan⟩
    · rw [hscan] at hrun
      obtain ⟨hadd, rfl⟩ := ofExcept_ok.mp hrun
      rcases Tasks.scanFolder_of_isFolder (m := m) hthere' t with ⟨-, hscan'⟩ | ⟨p, hp, hlong, -⟩
      · rw [hscan', hplan]
        exact ⟨rfl, ofExcept_ok.mpr ⟨hadd, rfl⟩⟩
      · exact (hopens p ((hfolders p).mp hp) hlong).elim
    · rw [hscan] at hrun
      cases hrun
  obtain ⟨t₁, w₁, hfirst, hrest⟩ := bind_ok.mp ht
  obtain ⟨t₂, w₂, hsecond, hpure⟩ := bind_ok.mp hrest
  cases hpure
  obtain ⟨rfl, hfirst'⟩ := hscan hsource (List.prefix_append ..) hfirst
  obtain ⟨-, hsecond'⟩ := hscan hcodebuild (List.prefix_append ..) hsecond
  exact bind_ok.mpr ⟨t₁, w', hfirst', bind_ok.mpr ⟨t, w', hsecond', rfl⟩⟩

end Rebuilt

/-! ## What is needed for it -/

/-- Nothing but a process can stop the compilation of the module. -/
structure Ready (w : Workshop) (e : Module × List Module) (exporters : List Module) (t : Tasks) :
    Prop where
  loaded : e.1.Loaded
  lookup : Capability.exportersFor e.2 e.1 = .ok exporters
  exporters_loaded : ∀ x ∈ exporters, x.Loaded
  tasks : (Compilation.tasks e.1).run w = (.ok t, w)
  /-- The build folder is there, or nothing is in its place and below it. -/
  clear : w.disk.get? e.1.buildDir.names = some .folder ∧ Stands w.disk e.1.buildDir.names
    ∨ ∀ q, e.1.buildDir.names <+: q → w.disk.get? q = none
  objects : ∀ task ∈ t.all, Stands w.disk e.1.buildDir.names ∧ task.2.parent.Usable
    ∧ e.1.buildDir.names <+: task.2.parent.names

theorem parent_objectOf {names : List String}
    (hsource : e.1.names = folder.names ++ names) (hobject : e.2 = objectOf m folder e.1) :
    e.2.parent = ⟨m.folder.root, m.buildDir.names ++ names.dropLast⟩ := by
  rw [hobject, objectOf, hsource, List.drop_left]
  simp only [Path.join, Path.withSuffix, Path.parent]
  rw [← List.append_assoc, List.dropLast_concat]
  rfl

/-- What lies above the build folder lies above the sources too. -/
theorem stands_of_source (hdisk : w.disk.Reachable) {names : Place} {entry : Entry}
    (hentry : (names, entry) ∈ w.disk.entries) (hnames : m.folder.names <+: names)
    (hne : names ≠ m.folder.names) : Stands w.disk m.buildDir.names := by
  intro q hq hqne
  have habove : q <+: m.folder.names := by
    rcases List.prefix_concat_iff.mp hq with heq | hpre
    · exact (hqne heq).elim
    · exact hpre
  refine hdisk.folder_above hentry (habove.trans hnames) fun heq => hne ?_
  exact (heq ▸ habove).eq_of_length_le hnames.length_le

/-- The folder of an object is the build folder or below it, and no longer than the source. -/
theorem usable_parent_of_task (hloaded : m.Loaded) (hdisk : w.disk.Reachable) {name : String}
    (hname : isFolderName name = true) (hlong : "build".utf8ByteSize ≤ name.utf8ByteSize)
    (hof : IsTaskOf w m ⟨m.folder.root, m.folder.names ++ [name]⟩ e) :
    Stands w.disk m.buildDir.names ∧ e.2.parent.Usable ∧ m.buildDir.names <+: e.2.parent.names := by
  obtain ⟨⟨suffix, hsource⟩, hobject⟩ := hof
  have hfolder := (hloaded.usable name hname).down
  obtain ⟨htop, names, entry, hne, hnames, hentry⟩ := entry_of_source hfolder hsource
  have hbelow : m.folder.names <+: e.1.names := by
    rw [hnames, List.append_assoc]
    exact List.prefix_append ..
  have hsize : Path.size ⟨m.folder.root, m.buildDir.names ++ names.dropLast⟩
      ≤ Path.size ⟨.top, e.1.names⟩ := by
    have hone : ∀ n : String, Path.size ⟨.here, [n]⟩ = n.utf8ByteSize + 1 := fun n => by
      simp [Path.size]
    have hbuild : m.buildDir.names = m.folder.names ++ ["build"] := rfl
    obtain ⟨last, hlast⟩ := List.dropLast_prefix names
    have hrest : Path.size ⟨.here, names⟩
        = Path.size ⟨.here, names.dropLast⟩ + Path.size ⟨.here, last⟩ := by
      rw [← Path.size_append, hlast]
    rw [hnames, hbuild, Path.size_append, Path.size_append, Path.size_append, Path.size_append,
      hrest, hone, hone]
    omega
  rw [parent_objectOf hnames hobject]
  refine ⟨stands_of_source hdisk hentry hbelow fun heq => ?_, ?_, List.prefix_append ..⟩
  · simpa [heq] using congrArg List.length hnames
  · refine (hloaded.usable "build" (by decide)).of_names (hdisk.usable hentry) hloaded.down.top
      (fun n hn => (List.mem_append.mp hn).imp_right fun hn => ?_) hsize
    show n ∈ e.1.names
    rw [hnames]
    exact List.mem_append_right _ (List.dropLast_subset _ hn)

/-! ## Modules apart -/

section Apart

variable {x y : Module} (hx : x.Loaded) (hy : y.Loaded)

include hx hy

/-- Nothing in a module's folder lies under the build folder of a module apart. -/
theorem not_under_of_apart (h : ¬ x.folder.Nested y.folder) {q : Place}
    (hq : y.folder.names <+: q) : Under [x.buildDir.names] q = false := by
  by_contra hunder
  obtain ⟨top, htop, hbuild⟩ := under_iff.mp (Bool.of_not_eq_false hunder)
  obtain rfl := List.mem_singleton.mp htop
  have hfolder : x.folder.names <+: x.buildDir.names := List.prefix_append ..
  exact h ⟨hx.down.top.trans hy.down.top.symm,
    List.prefix_or_prefix_of_prefix (hfolder.trans hbuild) hq⟩

/-- The other folders of a module are not under its own build folder either. -/
theorem not_under_child (h : x.folder = y.folder ∨ ¬ x.folder.Nested y.folder) {name : String}
    (hname : name ≠ "build") : Under [x.buildDir.names] (y.folder.names ++ [name]) = false := by
  rcases h with hsame | hapart
  · by_contra hunder
    obtain ⟨top, htop, hbuild⟩ := under_iff.mp (Bool.of_not_eq_false hunder)
    obtain rfl := List.mem_singleton.mp htop
    have hnames : x.folder.names ++ ["build"] <+: y.folder.names ++ [name] := hbuild
    rw [hsame, List.prefix_append_right_inj, List.cons_prefix_cons] at hnames
    exact hname hnames.1.symm
  · exact not_under_of_apart hx hy hapart (List.prefix_append ..)

end Apart

/-- The include folders of a module stay the same while another is built, or itself. -/
theorem foldersOf_rebuilt {c : Compilation} {x : Module} {exporters : List Module}
    (hx : x.Loaded) (hw : Rebuilt [x.buildDir.names] w w')
    (hexporters : ∀ y ∈ exporters,
      y.Loaded ∧ (x.folder = y.folder ∨ ¬ x.folder.Nested y.folder)) :
    c.foldersOf w' m exporters = c.foldersOf w m exporters := by
  have hgrants := (Workshop.eq_of_aside hw.aside).1
  have hexported : exportedFolders w' exporters = exportedFolders w exporters := by
    unfold exportedFolders
    congr 1
    refine List.filter_congr fun q hq => ?_
    obtain ⟨y, hy, hqy⟩ := List.mem_flatMap.mp hq
    obtain ⟨hloaded, hapart⟩ := hexporters y hy
    rcases List.mem_pair.mp hqy with rfl | rfl
    · exact hw.hasFolder (hloaded.usable "include" (by decide)).down
        (not_under_child hx hloaded hapart (by decide))
    · exact hw.hasFolder (hloaded.usable "codebuildexport" (by decide)).down
        (not_under_child hx hloaded hapart (by decide))
  rw [foldersOf, foldersOf, hexported, hgrants]

/-- Where there is no file there is a folder, or nothing from there on. -/
theorem clear_of_reachable {p : Path} (husable : p.Usable) (hne : p.names ≠ [])
    (hfile : w.hasFile p = false) (hdisk : w.disk.Reachable) :
    w.disk.get? p.names = some .folder ∧ Stands w.disk p.names
      ∨ ∀ q, p.names <+: q → w.disk.get? q = none := by
  cases hget : w.disk.get? p.names with
  | some found =>
      cases found with
      | folder =>
          have hentry := mem_entries_of_get? hget hne
          exact Or.inl ⟨rfl, fun q hq hqne => hdisk.folder_above hentry hq hqne⟩
      | file content =>
          have hfound := (hdisk _ (mem_entries_of_get? hget hne)).2
          rw [← husable.down.eq, follow_down husable.down] at hfound
          have hfollow : w.disk.follow w.here p = .ok p.names := by
            rw [follow_down husable.down, hfound]
          rw [Workshop.hasFile, husable.noNull, find_ok.mpr ⟨hfollow, hget⟩] at hfile
          cases hfile
  | none =>
      refine Or.inr fun q hq => ?_
      cases hfound : w.disk.get? q with
      | none => rfl
      | some entry =>
          have hqne : p.names ≠ q := fun heq => by
            rw [← heq, hget] at hfound
            cases hfound
          have hentry := mem_entries_of_get? hfound fun hnil => hne (List.prefix_nil.mp (hnil ▸ hq))
          have hfolder := hdisk.folder_above hentry hq hqne
          rw [hget] at hfolder
          cases hfolder

namespace Ready

/-- A file in the place of the build folder is all that has to be ruled out. -/
theorem of_loaded {modules : List Module} {x : Module × List Module}
    {resolved : Dict String (List String)}
    (hx : x ∈ Capability.withOthers modules) (hloaded : ∀ m ∈ modules, m.Loaded)
    (hresolved : Capability.verify modules = .ok resolved)
    (htasks : ((Compilation.tasks x.1).run w).1 = .ok t)
    (hbuild : w.hasFile x.1.buildDir = false) (hdisk : w.disk.Reachable) :
    ∃ exporters, Ready w x exporters t := by
  obtain ⟨exporters, hexporters⟩ := Capability.exportersFor_of_verify hresolved hx
  have hm := hloaded _ (Capability.mem_of_withOthers hx)
  have hothers : ∀ y ∈ exporters, y.Loaded := fun y hy =>
    hloaded y ((Capability.others_sublist hx).subset (Capability.exportersFor_subset hexporters hy))
  have hrun : (Compilation.tasks x.1).run w = (.ok t, w) := by
    have hpair : (Compilation.tasks x.1).run w = (.ok t, ((Compilation.tasks x.1).run w).2) :=
      Prod.ext htasks rfl
    rw [hpair, (tasks_ok hpair).1]
  have hne : x.1.buildDir.names ≠ [] := show x.1.folder.names ++ ["build"] ≠ [] by simp
  have hclear := clear_of_reachable (hm.usable "build" (by decide)) hne hbuild hdisk
  refine ⟨exporters, hm, hexporters, hothers, hrun, hclear, fun task htask => ?_⟩
  rcases isTaskOf_of_tasks hrun htask with hof | hof
  · exact usable_parent_of_task hm hdisk (by decide) (by decide) hof
  · exact usable_parent_of_task hm hdisk (by decide) (by decide) hof

/-- A module stays ready while a module apart is built. -/
theorem rebuilt {x : Module × List Module} {exporters : List Module} {y : Module}
    (h : Ready w x exporters t) (hy : y.Loaded) (hapart : ¬ y.folder.Nested x.1.folder)
    (hw : Rebuilt [y.buildDir.names] w w') : Ready w' x exporters t := by
  have hoff : ∀ q, x.1.folder.names <+: q → Under [y.buildDir.names] q = false :=
    fun q hq => not_under_of_apart hy h.loaded hapart hq
  have hbuild : x.1.folder.names <+: x.1.buildDir.names := List.prefix_append ..
  have hstands : Stands w.disk x.1.buildDir.names → Stands w'.disk x.1.buildDir.names := by
    intro hs q hq hne
    rw [hw.off.get? ?_]
    · exact hs q hq hne
    · by_contra hunder
      have := Under.of_prefix (Bool.of_not_eq_false hunder) hq
      rw [hoff _ hbuild] at this
      cases this
  refine ⟨h.loaded, h.lookup, h.exporters_loaded, ?_, ?_, fun task htask => ?_⟩
  · exact hw.tasks (h.loaded.usable "source" (by decide)).down
      (h.loaded.usable "codebuild" (by decide)).down hoff h.tasks
  · rcases h.clear with ⟨hfolder, hs⟩ | hnone
    · exact Or.inl ⟨(hw.off.get? (hoff _ hbuild)).trans hfolder, hstands hs⟩
    · exact Or.inr fun q hq => (hw.off.get? (hoff q (hbuild.trans hq))).trans (hnone q hq)
  · obtain ⟨hs, husable, hbelow⟩ := h.objects task htask
    exact ⟨hstands hs, husable, hbelow⟩

end Ready

end Compilation

end PatchForge
