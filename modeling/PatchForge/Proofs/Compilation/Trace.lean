import Mathlib.Data.List.Pairwise
import PatchForge.Proofs.Compilation.Ready

/-!
# The processes of a compilation

A module that is ready has one process for each of its tasks, compilations
before assemblies (`Tasks.calls`), and all modules have those of each in
order (`Compilation.calls`). Separate compilation asks for exactly these,
up to the first that does not pass (`compileAll_traces`). Only the build
folders change.
-/

namespace PatchForge

open Work Disk

/-! ## One process -/

/-- A build folder was built in: it gained folders, and processes were started. -/
structure Rising (top : Place) (w w' : Workshop) : Prop
    extends Compilation.Rebuilt [top] w w' where
  grows : Grows w.disk w'.disk

theorem Rising.refl (top : Place) (w : Workshop) : Rising top w w where
  aside := rfl
  off := SameOff.refl _
  grows := Grows.refl _

theorem Rising.trans {top : Place} {w₁ w₂ w₃ : Workshop} (h : Rising top w₁ w₂)
    (h' : Rising top w₂ w₃) : Rising top w₁ w₃ where
  aside := h'.aside.trans h.aside
  off := h.off.trans h'.off
  grows := h.grows.trans h'.grows

/-- A job whose object can get its folder starts its process, and ends as that does. -/
theorem Toolchain.build_traces {program : Path} {flags : List String} {verb : String}
    {failure : Path → ToolchainFault} {j : Job} {top : Place} {w : Workshop}
    (hstands : Stands w.disk top) (hfree : j.object.parent.Free w.disk)
    (htop : top <+: j.object.parent.names) :
    Traces (Rising top) [program.text :: (expandFlags flags ++ j.arguments)]
      (build program flags verb failure j) () w := by
  let notice : Notice := .info (verb ++ " " ++ j.source.text) none
  let w₁ : Workshop := { w with said := w.said ++ [notice.shown] }
  obtain ⟨w₂, hfolders⟩ := makeFolders_of_free (w := w₁) hfree
  obtain ⟨hstays, hgrows⟩ := (growing_makeFoldersFrom _ _).ok hfolders
  have hoff : SameOff [top] w.disk w₂.disk :=
    sameOff_makeFolders (w := w₁) hfree.down htop hstands hfolders
  have hrun : (build program flags verb failure j).run w = (do
      let code ← start program.text (expandFlags flags ++ j.arguments)
      if code ≠ 0 then fail (.toolchain (failure j.source)) : Work Unit).run w₂ := by
    show (makeFolders j.object.parent >>= _).run w₁ = _
    rw [run_bind, hfolders]
  have hbefore : w₂.aside = w.aside ∧ w₂.started = w.started ∧ w₂.outcomes = w.outcomes := by
    rw [hstays]
    exact ⟨rfl, rfl, rfl⟩
  have hstart := start_traces program.text (expandFlags flags ++ j.arguments) (failure j.source) w₂
  refine hstart.after hrun hbefore.2.1 hbefore.2.2 fun hrest => ?_
  obtain ⟨hdisk, haside⟩ := hrest
  refine ⟨⟨haside.trans hbefore.1, ?_⟩, ?_⟩
  · rw [hdisk]
    exact hoff
  · rw [hdisk]
    exact hgrows

namespace Compilation

variable {c : Compilation} {t : Tasks} {w w' : Workshop}

/-! ## The tasks of a module -/

/-- What the compiler is started with for a task. -/
def compileCall (c : Compilation) (includes : List Path) (e : Task) : List String :=
  c.toolchain.compiler.text :: (Toolchain.expandFlags Toolchain.compilerFlags
    ++ Toolchain.Job.arguments ⟨e.1, e.2, c.flags, includes⟩)

/-- What the assembler is started with for a task. -/
def assembleCall (c : Compilation) (includes : List Path) (e : Task) : List String :=
  c.toolchain.assembler.text :: (Toolchain.expandFlags Toolchain.assemblerFlags
    ++ Toolchain.Job.arguments ⟨e.1, e.2, c.flags, includes⟩)

/-- The processes of the tasks of a module, one for each. -/
def Tasks.calls (t : Tasks) (c : Compilation) (includes : List Path) : List (List String) :=
  t.compilations.map (c.compileCall includes) ++ t.assemblies.map (c.assembleCall includes)

/-- The objects of the tasks of a module, in the order of the processes. -/
def Tasks.objects (t : Tasks) : List Path := t.all.map (·.2)

/-- Carries out the tasks of a module. -/
def buildTasks (c : Compilation) (t : Tasks) (includes : List Path) : Work (List Path) := do
  t.compilations.forM fun (source, object) =>
    c.toolchain.compile ⟨source, object, c.flags, includes⟩
  t.assemblies.forM fun (source, object) =>
    c.toolchain.assemble ⟨source, object, c.flags, includes⟩
  return (t.compilations ++ t.assemblies).map (·.2)

theorem buildTasks_traces {top : Place} (includes : List Path)
    (hempty : ∀ q, top <+: q → ∀ content, w.disk.get? q ≠ some (.file content))
    (hobjects : ∀ e ∈ t.all, Stands w.disk top ∧ e.2.parent.Usable ∧ top <+: e.2.parent.names) :
    Traces (Rising top) (t.calls c includes) (c.buildTasks t includes) t.objects w := by
  -- whatever was built before, no file came in the way of an object
  have hready : ∀ e ∈ t.all, ∀ w', Rising top w w' →
      Stands w'.disk top ∧ e.2.parent.Free w'.disk := by
    intro e he w' hrising
    obtain ⟨hstands, husable, htop⟩ := hobjects e he
    have hstands' := hstands.sameOff hrising.off
    refine ⟨hstands', ⟨husable, fun q hq content hfile => ?_⟩⟩
    by_cases hbelow : top <+: q
    · exact hempty q hbelow content (hrising.grows.file hfile)
    · have habove := (List.prefix_or_prefix_of_prefix hq htop).resolve_right hbelow
      have hfolder := hstands' q habove fun heq => hbelow (heq ▸ List.prefix_rfl)
      rw [hfile] at hfolder
      cases hfolder
  have hcompile : Traces (Rising top) (t.compilations.map (c.compileCall includes))
      (t.compilations.forM fun (source, object) =>
        c.toolchain.compile ⟨source, object, c.flags, includes⟩) ⟨⟩ w := by
    refine Traces.forM (Rising.refl top) Rising.trans fun e he w' hrising => ?_
    have hmem : e ∈ t.all := List.mem_append_left _ he
    obtain ⟨hstands, hfree⟩ := hready e hmem w' hrising
    exact Toolchain.build_traces hstands hfree (hobjects e hmem).2.2
  have hassemble : ∀ w', Rising top w w' →
      Traces (Rising top) (t.assemblies.map (c.assembleCall includes)) (do
        t.assemblies.forM fun (source, object) =>
          c.toolchain.assemble ⟨source, object, c.flags, includes⟩
        return (t.compilations ++ t.assemblies).map (·.2)) t.objects w' := by
    intro w' hrising
    rw [← map_eq_pure_bind]
    refine Traces.map (g := fun _ => t.objects) (Traces.forM (Rising.refl top) Rising.trans
      fun e he w'' hrising' => ?_)
    have hmem : e ∈ t.all := List.mem_append_right _ he
    obtain ⟨hstands, hfree⟩ := hready e hmem w'' (hrising.trans hrising')
    exact Toolchain.build_traces hstands hfree (hobjects e hmem).2.2
  exact hcompile.bind hassemble id Rising.trans

/-! ## One module -/

/-- The include folders of a module that is ready are known. -/
theorem Ready.includeFolders {e : Module × List Module} {exporters : List Module}
    (h : Ready w e exporters t) :
    (c.includeFolders e.1 e.2).run w = (.ok (c.foldersOf w e.1 exporters), w) := by
  rcases includeFolders_run c e.1 e.2 w with ⟨found, hfound, hrun⟩ | ⟨f, hfault, -⟩
  · rw [h.lookup] at hfound
    cases hfound
    exact hrun
  · obtain ⟨x, hx, hunloaded, -⟩ := hfault.unloaded h.lookup
    exact (hunloaded (h.exporters_loaded x hx)).elim

/-- A build folder that is there goes away, with all that is in it. -/
theorem clear_folder {p : Path} (husable : p.Usable)
    (hfolder : w.disk.get? p.names = some .folder) (hstands : Stands w.disk p.names) :
    (exists? p).run w = (.ok true, w)
      ∧ (Work.removeTree p).run w = (.ok (), w.onDisk (w.disk.eraseTree p.names)) := by
  have hfree : p.Free w.disk := by
    refine ⟨husable, fun q hq content hfile => ?_⟩
    by_cases heq : q = p.names
    · rw [heq, hfolder] at hfile
      cases hfile
    · rw [hstands q hq heq] at hfile
      cases hfile
  have hfollow : w.disk.follow w.here p = .ok p.names := hfree.follow_of_stands hstands
  constructor
  · rw [exists?_of_follow husable.noNull hfollow, hfolder]
    rfl
  · unfold Work.removeTree Disk.removeTree
    simp only [husable.noNull, Bool.false_eq_true, if_false, run_bind, run_get]
    rw [find_ok.mpr ⟨hfollow, hfolder⟩]
    rfl

theorem exists_of_nothing {p : Path} (husable : p.Usable) (hnone : w.disk.get? p.names = none) :
    (exists? p).run w = (.ok false, w) := by
  have hentry : (lookUp? p).run w = (.ok none, w) := by
    unfold lookUp?
    simp only [husable.noNull, Bool.false_eq_true, if_false, run_bind, run_get]
    cases hfind : w.disk.find w.here p with
    | ok found =>
        obtain ⟨place, entry⟩ := found
        obtain ⟨hfollow, hget⟩ := find_ok.mp hfind
        obtain ⟨rfl, -⟩ := place_of_follow husable.down hfollow
        rw [hnone] at hget
        cases hget
    | error e =>
        rcases find_error hfind with rfl | rfl | ⟨-, hlong⟩
        · rfl
        · rfl
        · exact (husable.short hlong).elim
  rw [exists?, run_bind, hentry]
  rfl

/-- A module that is ready gets as far as its tasks, with an empty build folder. -/
theorem compileModule_run {e : Module × List Module} {exporters : List Module}
    (h : Ready w e exporters t) :
    ∃ d, (c.compileModule e.1 e.2 c.flags).run w
        = (c.buildTasks t (c.foldersOf w e.1 exporters)).run (w.onDisk d)
      ∧ SameOff [e.1.buildDir.names] w.disk d
      ∧ ∀ q, e.1.buildDir.names <+: q → ∀ content, d.get? q ≠ some (.file content) := by
  have husable : e.1.buildDir.Usable := h.loaded.usable "build" (by decide)
  have hne : e.1.buildDir.names ≠ [] := show e.1.folder.names ++ ["build"] ≠ [] by simp
  unfold compileModule
  rw [run_bind, h.includeFolders]
  dsimp only
  rw [run_bind, h.tasks]
  dsimp only
  rw [run_bind]
  rcases h.clear with ⟨hfolder, hstands⟩ | hnone
  · -- what is there goes away, and leaves no file
    obtain ⟨hthere, hremove⟩ := clear_folder husable hfolder hstands
    refine ⟨_, ?_, sameOff_eraseTree w.disk e.1.buildDir.names, fun q hq content hfile => ?_⟩
    · rw [hthere]
      dsimp only
      rw [if_pos rfl, run_bind, hremove]
      rfl
    · rw [get?_eraseTree hne hq] at hfile
      cases hfile
  · refine ⟨w.disk, ?_, SameOff.refl _, fun q hq content hfile => ?_⟩
    · rw [exists_of_nothing husable (hnone _ List.prefix_rfl)]
      rfl
    · rw [hnone q hq] at hfile
      cases hfile

theorem compileModule_traces {e : Module × List Module} {exporters : List Module}
    (h : Ready w e exporters t) :
    Traces (Rebuilt [e.1.buildDir.names]) (t.calls c (c.foldersOf w e.1 exporters))
      (c.compileModule e.1 e.2 c.flags) t.objects w := by
  obtain ⟨d, hrun, hoff, hempty⟩ := compileModule_run (c := c) h
  have hobjects : ∀ task ∈ t.all, Stands d e.1.buildDir.names ∧ task.2.parent.Usable
      ∧ e.1.buildDir.names <+: task.2.parent.names := fun task htask =>
    have ⟨hstands, hrest⟩ := h.objects task htask
    ⟨hstands.sameOff hoff, hrest⟩
  have htasks := buildTasks_traces (c := c) (w := w.onDisk d) (c.foldersOf w e.1 exporters)
    hempty hobjects
  refine htasks.after hrun rfl rfl fun hrising => ⟨hrising.aside, ?_⟩
  exact hoff.trans hrising.off

/-! ## All modules -/

/-- The include folders that a module of a set is compiled with. -/
def folders (c : Compilation) (w : Workshop) (e : Module × List Module) : List Path :=
  c.foldersOf w e.1 ((Capability.exportersFor e.2 e.1).toOption.getD [])

/-- The processes of the tasks `t` of all modules, in order. -/
def calls (c : Compilation) (w : Workshop) (t : Module → Tasks) : List (List String) :=
  (Capability.withOthers c.modules).flatMap fun e => (t e.1).calls c (c.folders w e)

/-- The tasks `t` of all modules, in order. -/
def taskList (c : Compilation) (t : Module → Tasks) : List Task :=
  c.modules.flatMap fun m => (t m).all

/-- The objects of the tasks `t` of all modules, in order. -/
def objects (c : Compilation) (t : Module → Tasks) : List Path := (c.taskList t).map (·.2)

/-- The process is for the task: its last arguments are the source and the object. -/
def IsFor (call : List String) (e : Task) : Prop := [e.1.text, "-o", e.2.text] <:+ call

theorem isFor_arguments (program : Path) (flags : List String) (j : Toolchain.Job) :
    IsFor (program.text :: (flags ++ j.arguments)) (j.source, j.object) :=
  ((List.suffix_append _ _).trans (List.suffix_append _ _)).trans (List.suffix_cons _ _)

theorem Tasks.calls_isFor (t : Tasks) (c : Compilation) (includes : List Path) :
    List.Forall₂ IsFor (t.calls c includes) t.all := by
  refine List.rel_append (List.forall₂_map_left_iff.mpr ?_) (List.forall₂_map_left_iff.mpr ?_)
  · exact List.forall₂_same.mpr fun e _ => isFor_arguments _ _ _
  · exact List.forall₂_same.mpr fun e _ => isFor_arguments _ _ _

theorem taskList_eq (c : Compilation) (t : Module → Tasks) :
    c.taskList t = (Capability.withOthers c.modules).flatMap fun e => (t e.1).all := by
  rw [taskList]
  conv => lhs; rw [← Capability.map_fst_withOthers c.modules, List.flatMap_map]

/-- There is one process for each task, in the order of the tasks. -/
theorem calls_isFor (c : Compilation) (w : Workshop) (t : Module → Tasks) :
    List.Forall₂ IsFor (c.calls w t) (c.taskList t) := by
  rw [calls, taskList_eq]
  induction Capability.withOthers c.modules with
  | nil => exact List.Forall₂.nil
  | cons e entries ih => exact List.rel_append (Tasks.calls_isFor _ _ _) ih

theorem Rebuilt.mono {tops tops' : List Place} (h : Rebuilt tops w w') (hsub : tops ⊆ tops') :
    Rebuilt tops' w w' := ⟨h.aside, h.off.mono hsub⟩

theorem Rebuilt.trans {tops : List Place} {w'' : Workshop} (h : Rebuilt tops w w')
    (h' : Rebuilt tops w' w'') : Rebuilt tops w w'' :=
  ⟨h'.aside.trans h.aside, h.off.trans h'.off⟩

/-- No folder of a module is in that of another. -/
def Apart (modules : List Module) : Prop :=
  modules.Pairwise fun a b => ¬ a.folder.Nested b.folder

/-- Modules that are ready are compiled one after another; those that wait stay ready. -/
theorem compileModules_traces {modules : List Module} {t : Module → Tasks}
    (hloaded : ∀ m ∈ modules, m.Loaded)
    (hdistinct : ∀ x ∈ modules, ∀ y ∈ modules, x.folder = y.folder ∨ ¬ x.folder.Nested y.folder) :
    ∀ {entries : List (Module × List Module)} {w : Workshop},
      (∀ e ∈ entries, e.1 ∈ modules
        ∧ ∃ exporters, exporters ⊆ modules ∧ Ready w e exporters (t e.1)) →
      entries.Pairwise (fun a b => ¬ a.1.folder.Nested b.1.folder) →
        Traces (Rebuilt (entries.map (·.1.buildDir.names)))
          (entries.flatMap fun e => (t e.1).calls c (c.folders w e))
          (entries.mapM fun e => c.compileModule e.1 e.2 c.flags)
          (entries.map fun e => (t e.1).objects) w
  | [], w, _, _ => Traces.of_run rfl ⟨rfl, SameOff.refl _⟩ rfl rfl
  | e :: entries, w, hready, hapart => by
      obtain ⟨⟨he, exporters, -, hfirst⟩, hrest⟩ := List.forall_mem_cons.mp hready
      obtain ⟨haparts, hentries⟩ := List.pairwise_cons.mp hapart
      have hwait : ∀ w', Rebuilt [e.1.buildDir.names] w w' →
          Traces (Rebuilt (entries.map (·.1.buildDir.names)))
            (entries.flatMap fun e => (t e.1).calls c (c.folders w e)) (do
              let objects ← entries.mapM fun e => c.compileModule e.1 e.2 c.flags
              return (t e.1).objects :: objects)
            ((t e.1).objects :: entries.map fun e => (t e.1).objects) w' := by
        intro w' hrebuilt
        have hsame : (entries.flatMap fun e => (t e.1).calls c (c.folders w e))
            = entries.flatMap fun e => (t e.1).calls c (c.folders w' e) := by
          refine List.flatMap_congr fun x hx => ?_
          obtain ⟨-, others, hothers, hwaits⟩ := hrest x hx
          rw [folders, folders, hwaits.lookup, Except.toOption, Option.getD_some,
            foldersOf_rebuilt (hloaded _ he) hrebuilt fun y hy =>
              ⟨hloaded y (hothers hy), hdistinct _ he y (hothers hy)⟩]
        rw [hsame, ← map_eq_pure_bind]
        refine Traces.map (g := fun objects => (t e.1).objects :: objects)
          (compileModules_traces hloaded hdistinct (fun x hx => ?_) hentries)
        obtain ⟨hmem, others, hothers, hwaits⟩ := hrest x hx
        exact ⟨hmem, others, hothers, hwaits.rebuilt (hloaded _ he) (haparts x hx) hrebuilt⟩
      have hfolders : c.folders w e = c.foldersOf w e.1 exporters := by
        rw [folders, hfirst.lookup]
        rfl
      rw [List.mapM_cons, List.flatMap_cons, hfolders]
      exact (compileModule_traces hfirst).bind hwait (fun hR => hR.mono (by simp))
        fun hR hR' => (hR.mono (by simp)).trans (hR'.mono (List.subset_cons_self _ _))

/-- Separate compilation has what it needs: the modules were loaded from folders apart and
resolve, their tasks are known, no build folder is a file, and what is in the file tree can be
reached. -/
structure Compilable (c : Compilation) (w : Workshop) (t : Module → Tasks) : Prop where
  loaded : ∀ m ∈ c.modules, m.Loaded
  apart : Apart c.modules
  resolved : ∃ resolved, Capability.verify c.modules = .ok resolved
  tasks : ∀ m ∈ c.modules, ((tasks m).run w).1 = .ok (t m)
  build : ∀ m ∈ c.modules, w.hasFile m.buildDir = false
  reachable : w.disk.Reachable

/-- **Separate compilation.** The processes are one for each task, module after module in order;
they are asked for up to the first that does not pass. If all do, the objects of the tasks are
given in the same order. Nothing is touched but the build folders. -/
theorem compileAll_traces {t : Module → Tasks} (h : c.Compilable w t) :
    Traces (Rebuilt (c.modules.map (·.buildDir.names))) (c.calls w t) c.compileAll
      (c.objects t) w := by
  obtain ⟨resolved, hresolved⟩ := h.resolved
  have hfst := Capability.map_fst_withOthers c.modules
  have hready : ∀ e ∈ Capability.withOthers c.modules, e.1 ∈ c.modules
      ∧ ∃ exporters, exporters ⊆ c.modules ∧ Ready w e exporters (t e.1) := by
    intro e he
    have hmem := Capability.mem_of_withOthers he
    obtain ⟨exporters, hfirst⟩ :=
      Ready.of_loaded he h.loaded hresolved (h.tasks _ hmem) (h.build _ hmem) h.reachable
    refine ⟨hmem, exporters, fun x hx => ?_, hfirst⟩
    exact (Capability.others_sublist he).subset (Capability.exportersFor_subset hfirst.lookup hx)
  have hdistinct : ∀ x ∈ c.modules, ∀ y ∈ c.modules,
      x.folder = y.folder ∨ ¬ x.folder.Nested y.folder := by
    have hsymm : Std.Symm fun a b : Module => ¬ a.folder.Nested b.folder :=
      ⟨fun _ _ hne hnested => hne hnested.symm⟩
    intro x hx y hy
    by_cases hxy : x = y
    · exact Or.inl (congrArg Module.folder hxy)
    · exact Or.inr (List.Pairwise.forall h.apart hx hy hxy)
  have hentries : (Capability.withOthers c.modules).Pairwise
      fun a b => ¬ a.1.folder.Nested b.1.folder := by
    have hapart := h.apart
    rwa [Apart, ← hfst, List.pairwise_map] at hapart
  have hall := compileModules_traces (c := c) h.loaded hdistinct hready hentries
  have hobjects : c.objects t
      = ((Capability.withOthers c.modules).map fun e => (t e.1).objects).flatten := by
    rw [objects, taskList_eq, ← List.flatMap_def, List.map_flatMap]
    rfl
  have htops : c.modules.map (·.buildDir.names)
      = (Capability.withOthers c.modules).map (·.1.buildDir.names) := by
    conv => lhs; rw [← hfst, List.map_map]
    rfl
  have hrun : c.compileAll = List.flatten <$> (Capability.withOthers c.modules).mapM fun e =>
      c.compileModule e.1 e.2 c.flags := by
    rw [map_eq_pure_bind]
    rfl
  rw [hrun, hobjects, htops]
  exact hall.map

/-- Separate compilation goes through if every call passes. -/
theorem compileAll_completes {t : Module → Tasks} (h : c.Compilable w t)
    (hpasses : ∀ i < (c.calls w t).length, CallPasses (c.calls w t) w i) :
    ∃ w', c.compileAll.run w = (.ok (c.objects t), w')
      ∧ w'.started = w.started ++ c.calls w t ∧ w'.aside = w.aside := by
  obtain ⟨w', hrebuilt, ⟨hcompiles, hcompletes⟩ | ⟨i, f, -, hbreaks⟩⟩ := compileAll_traces h
  · exact ⟨w', hcompiles, hcompletes.started, hrebuilt.aside⟩
  · exact (hbreaks.not_passes (hpasses i hbreaks.lt)).elim

/-- Separate compilation ends at the first call that does not pass. -/
theorem compileAll_stops {t : Module → Tasks} {i : Nat} (h : c.Compilable w t)
    (hi : i < (c.calls w t).length) (hbefore : ∀ j < i, CallPasses (c.calls w t) w j)
    (hill : ¬ CallPasses (c.calls w t) w i) :
    ∃ n f w', Stops ((c.calls w t).getD i []) (w.outcome i) n f
      ∧ c.compileAll.run w = (.error f, w')
      ∧ w'.started = w.started ++ (c.calls w t).take (i + n)
      ∧ w.disk.SameOff (c.modules.map (·.buildDir.names)) w'.disk := by
  obtain ⟨w', hrebuilt, ⟨-, hcompletes⟩ | ⟨k, f, hfails, hbreaks⟩⟩ := compileAll_traces h
  · exact (hill (hcompletes.well i hi)).elim
  · obtain rfl := hbreaks.index_eq hbefore hill
    obtain ⟨n, hstops, hstarted⟩ := hbreaks.ill
    exact ⟨n, f, w', hstops, hfails, hstarted, hrebuilt.off⟩

end Compilation

end PatchForge
