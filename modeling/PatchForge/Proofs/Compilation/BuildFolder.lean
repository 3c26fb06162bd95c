import PatchForge.Proofs.Build.Preflight
import PatchForge.Proofs.Compilation.Tasks
import PatchForge.Proofs.Compilation.UnitBuild

/-!
# A build folder that is made anew

Compiling a module takes its build folder away, so nothing may go wrong
late that could have been known early. Two kinds of failure are known
early, a missing capability and two sources with one object
(`Failure.isRejection`), and they come up before anything is touched.
After that only folders are made and processes started, which fails for
other reasons.

Once past these checks the folder is gone whatever happens next. The
files that are left are those that were not in it, no more and no less
(`compileModule_files`), and so no object of an earlier build can be taken
for a new one.
-/

namespace PatchForge

open Work Disk

/-- Failures of compiling that are known before a module is touched. -/
def Failure.isRejection : Failure → Bool
  | .missingCapability _ | .toolchain (.sameObject ..) => true
  | _ => false

theorem Failure.isRejection_of_isOfFiles {f : Failure} (h : f.isOfFiles) :
    f.isRejection = false := by
  cases f with
  | missingCapability | toolchain => cases h
  | _ => rfl

/-- The place is that of the folder a path leads to, or below it. -/
def Workshop.Within (w : Workshop) (folder : Path) (place : Place) : Prop :=
  hasNull folder = false ∧ ∃ top, w.disk.find w.here folder = .ok (top, .folder) ∧ top <+: place

/-! ## Taking a folder away -/

/-- A path does not lead to the top unless it goes up. -/
theorem Disk.ne_nil_of_follow {d : Disk} {here place : Place} {p : Path} {names : List String}
    {name : String} (hnames : p.names = names ++ [name]) (hname : name ≠ "..")
    (h : d.follow here p = .ok place) : place ≠ [] := by
  unfold follow at h
  split at h
  · cases h
  rw [hnames, walk_append] at h
  obtain ⟨above, -, hlast⟩ := Result.bind_ok.mp h
  rw [walk] at hlast
  cases hstep : d.step above name with
  | error e =>
      rw [hstep] at hlast
      cases hlast
  | ok next =>
      rw [hstep] at hlast
      cases hlast
      unfold step at hstep
      rw [folder_of_step (by unfold step; exact hstep)] at hstep
      dsimp only at hstep
      rw [if_neg hname] at hstep
      split at hstep
      · cases hstep
      · cases hstep
        simp

section

variable {w w' : Workshop} {p : Path} {top : Place}

/-- The files that are left are those that the folder did not hold. -/
def LosesOnly (p : Path) (w w' : Workshop) : Prop :=
  ∀ place content, w'.disk.get? place = some (.file content)
    ↔ w.disk.get? place = some (.file content) ∧ ¬ w.Within p place

theorem losesOnly_of_not_within (h : ∀ place, ¬ w.Within p place) : LosesOnly p w w :=
  fun place _ => (and_iff_left (h place)).symm

theorem losesOnly_eraseTree (hnull : hasNull p = false)
    (hfind : w.disk.find w.here p = .ok (top, .folder)) (htop : top ≠ []) :
    LosesOnly p w (w.onDisk (w.disk.eraseTree top)) := by
  intro place content
  have hwithin : w.Within p place ↔ top <+: place := by
    unfold Workshop.Within
    simp [hnull, hfind]
  rw [hwithin, Workshop.onDisk_disk]
  by_cases hbelow : top <+: place
  · simp [get?_eraseTree htop hbelow, hbelow]
  · have hoff : Under [top] place = false := by
      rw [← Bool.not_eq_true, under_iff]
      simpa using hbelow
    rw [(sameOff_eraseTree w.disk top).get? hoff]
    exact (and_iff_left hbelow).symm

/-- Folders go with all that they hold, and files are refused. -/
theorem removeTree_of_find {entry : Entry} (hnull : hasNull p = false)
    (hfind : w.disk.find w.here p = .ok (top, entry)) : (removeTree p).run w = match entry with
      | .folder => (.ok (), w.onDisk (w.disk.eraseTree top))
      | .file _ => (.error (.notRemovable p), w) := by
  unfold Work.removeTree Disk.removeTree
  simp only [hnull, Bool.false_eq_true, if_false, run_bind, run_get, hfind]
  cases entry <;> rfl

/-- Takes away what is at a path, if something is. -/
def clear (p : Path) : Work Unit := do
  if ← exists? p then removeTree p

theorem run_clear_bind {α : Type} (x : Work α) (w : Workshop) : (do
      if ← exists? p then removeTree p
      x).run w = (clear p >>= fun _ => x).run w := by
  -- on the left the rest of the work stands in both branches of the question
  unfold clear
  rw [bind_assoc, run_bind, run_bind]
  cases (exists? p).run w with
  | mk result w₁ =>
      cases result with
      | error f => rfl
      | ok there =>
          cases there with
          | true => simp only [if_true]
          | false => simp only [Bool.false_eq_true, if_false, pure_bind]

/-- Clearing fails where nothing was lost, or the files are gone that the folder held. -/
theorem clear_run {names : List String} {name : String} (hnames : p.names = names ++ [name])
    (hname : name ≠ "..") (w : Workshop) :
    (∃ f, f.isOfFiles ∧ (clear p).run w = (.error f, w) ∧ LosesOnly p w w)
      ∨ ∃ w', (clear p).run w = (.ok (), w') ∧ LosesOnly p w w' := by
  have hstays : (∀ top, w.disk.find w.here p ≠ .ok (top, .folder)) → LosesOnly p w w :=
    fun hnone => losesOnly_of_not_within fun _ ⟨_, top, hfound, _⟩ => hnone top hfound
  unfold clear exists? lookUp?
  cases hnull : hasNull p with
  | true =>
      refine Or.inr ⟨w, rfl, losesOnly_of_not_within ?_⟩
      rintro place ⟨hno, -⟩
      rw [hnull] at hno
      cases hno
  | false =>
      simp only [Bool.false_eq_true, if_false, run_bind, run_get]
      cases hfind : w.disk.find w.here p with
      | error e =>
          have hloses := hstays (by simp [hfind])
          rcases find_error hfind with rfl | rfl | ⟨rfl, -⟩
          · exact Or.inr ⟨w, rfl, hloses⟩
          · exact Or.inr ⟨w, rfl, hloses⟩
          · exact Or.inl ⟨_, rfl, rfl, hloses⟩
      | ok found =>
          obtain ⟨top, entry⟩ := found
          have hremove := removeTree_of_find hnull hfind
          cases entry with
          | file content =>
              exact Or.inl ⟨.notRemovable p, rfl, hremove, hstays (by simp [hfind])⟩
          | folder =>
              have htop := ne_nil_of_follow hnames hname (find_ok.mp hfind).1
              exact Or.inr ⟨_, hremove, losesOnly_eraseTree hnull hfind htop⟩

end

/-! ## What comes after -/

/-- The file tree gains folders at most. -/
abbrev spreading : Contract :=
  .moving (fun w w' => Grows w.disk w'.disk) (fun w => Grows.refl w.disk) Grows.trans

/-- It fails, if at all, for reasons that cannot be known beforehand. -/
abbrev underway : Contract := .failingBy fun f => f.isRejection = false

section

variable {program : Path} {flags : List String} {verb : String} {j : Toolchain.Job}

theorem spreading_build {failure : Path → ToolchainFault} :
    Meets spreading (Toolchain.build program flags verb failure j) :=
  fun w => (Toolchain.build_run (w := w) rfl).1

theorem underway_build {failure : Path → ToolchainFault}
    (hfailure : ∀ source, (Failure.toolchain (failure source)).isRejection = false) :
    Meets underway (Toolchain.build program flags verb failure j) :=
  failing_build (fun _ => Failure.isRejection_of_isOfFiles) (fun _ _ => rfl) hfailure

end

theorem LosesOnly.grows {p : Path} {w w₁ w₂ : Workshop} (h : LosesOnly p w w₁)
    (hgrows : Grows w₁.disk w₂.disk) : LosesOnly p w w₂ := by
  intro place content
  rw [← h place content]
  exact ⟨hgrows.file, hgrows.get?_some⟩

namespace Compilation

variable {c : Compilation} {m : Module} {others : List Module} {flags : List String}
  {includes : List Path} {t : Tasks} {w : Workshop}

/-- Builds the objects of tasks, once there is room for them. -/
def carryOut (c : Compilation) (flags : List String) (includes : List Path) (t : Tasks) :
    Work (List Path) := do
  t.compilations.forM fun (source, object) =>
    c.toolchain.compile ⟨source, object, flags, includes⟩
  t.assemblies.forM fun (source, object) =>
    c.toolchain.assemble ⟨source, object, flags, includes⟩
  return (t.compilations ++ t.assemblies).map (·.2)

theorem spreading_carryOut : Meets spreading (c.carryOut flags includes t) :=
  meets_bind (meets_forM fun _ _ => spreading_build) fun _ =>
    meets_bind (meets_forM fun _ _ => spreading_build) fun _ => meets_pure _

theorem underway_carryOut : Meets underway (c.carryOut flags includes t) :=
  meets_bind (meets_forM fun _ _ => underway_build fun _ => rfl) fun _ =>
    meets_bind (meets_forM fun _ _ => underway_build fun _ => rfl) fun _ => meets_pure _

/-! ## What comes before -/

/-- The include folders and the tasks of the module are known. -/
def Passes (c : Compilation) (w : Workshop) (m : Module) (others : List Module) : Prop :=
  ∃ includes t, (c.includeFolders m others).run w = (.ok includes, w)
    ∧ (tasks m).run w = (.ok t, w)

theorem tasks_stays (m : Module) (w : Workshop) : (tasks m).run w = (((tasks m).run w).1, w) := by
  rcases tasks_run m w with ⟨hrun, -⟩ | ⟨_, -, _, -, hrun, -⟩
  · rw [hrun, Tasks.adding]
    cases Tasks.addAll m {} (plan w m) <;> rfl
  · rw [hrun]

theorem compileModule_of_not_passes (h : ¬ c.Passes w m others) :
    ∃ f, (c.compileModule m others flags).run w = (.error f, w) := by
  unfold compileModule
  rw [run_bind]
  rcases includeFolders_run c m others w with ⟨exporters, -, hincludes⟩ | ⟨f, -, hincludes⟩
  · rw [hincludes]
    dsimp only
    rw [run_bind, tasks_stays]
    cases htasks : ((tasks m).run w).1 with
    | error f => exact ⟨f, rfl⟩
    | ok t => exact (h ⟨_, t, hincludes, by rw [tasks_stays, htasks]⟩).elim
  · rw [hincludes]
    exact ⟨f, rfl⟩

theorem compileModule_eq (c : Compilation) (m : Module) (others : List Module)
    (flags : List String) : c.compileModule m others flags = (do
      let includes ← c.includeFolders m others
      let t ← tasks m
      if ← exists? m.buildDir then removeTree m.buildDir
      c.carryOut flags includes t) := rfl

theorem compileModule_of_passes (flags : List String) (h : c.Passes w m others) :
    LosesOnly m.buildDir w ((c.compileModule m others flags).run w).2
      ∧ ∀ f, failure? ((c.compileModule m others flags).run w).1 = some f →
        f.isRejection = false := by
  obtain ⟨includes, t, hincludes, htasks⟩ := h
  have hrun : (c.compileModule m others flags).run w
      = (clear m.buildDir >>= fun _ => c.carryOut flags includes t).run w := by
    rw [compileModule_eq, run_bind, hincludes]
    dsimp only
    rw [run_bind, htasks]
    exact run_clear_bind _ w
  rw [hrun, run_bind]
  have hnames : m.buildDir.names = m.folder.names ++ ["build"] := rfl
  rcases clear_run hnames (by decide) w with ⟨f, hf, hclear, hloses⟩ | ⟨w₁, hclear, hloses⟩
  · rw [hclear]
    refine ⟨hloses, ?_⟩
    rintro _ ⟨⟩
    exact Failure.isRejection_of_isOfFiles hf
  · -- from here on no file comes or goes, whichever job is the last
    have hgrows : Grows w₁.disk ((c.carryOut flags includes t).run w₁).2.disk :=
      spreading_carryOut w₁
    have hlate : ∀ f, failure? ((c.carryOut flags includes t).run w₁).1 = some f →
        f.isRejection = false := underway_carryOut w₁
    rw [hclear]
    dsimp only
    exact ⟨hloses.grows hgrows, hlate⟩

theorem compileModule_of_missing {missing : Capability.Missing}
    (h : Capability.exportersFor others m = .error missing) :
    (c.compileModule m others flags).run w = (.error (.missingCapability missing), w) := by
  rw [compileModule_eq, run_bind]
  rcases includeFolders_run c m others w with ⟨exporters, hexporters, -⟩ | ⟨f, hfault, hrun⟩
  · rw [h] at hexporters
    cases hexporters
  · rcases hfault with ⟨_, hmissing, rfl⟩ | ⟨exporters, hexporters, -⟩
    · cases h.symm.trans hmissing
      rw [hrun]
    · rw [h] at hexporters
      cases hexporters

/-- Where two sources would be built into one object there is no list of tasks. -/
theorem not_passes_of_collide {first second object : Path} (h : Collide w m first second object) :
    ¬ c.Passes w m others := by
  rintro ⟨includes, t, -, htasks⟩
  obtain ⟨-, hadds, hobjects⟩ := adds_of_tasks htasks
  obtain ⟨hne, ⟨kind, hkind, hfirst⟩, ⟨kind', hkind', hsecond⟩⟩ := h
  have hall : ∀ {kind e}, kind ∈ sourceKinds → SourceTask w m kind.1 e → e ∈ t.all := by
    intro kind e hkind he
    obtain ⟨x, hx, rfl⟩ := List.mem_map.mp ((mem_plan_ofKind hkind).mpr he)
    rw [hadds.perm.mem_iff]
    exact List.mem_map_of_mem (List.mem_of_mem_filter hx)
  have hsame := List.inj_on_of_nodup_map hobjects (hall hkind hfirst) (hall hkind' hsecond) rfl
  exact hne (congrArg Prod.fst hsame)

/-- **Rejected before anything is touched, or made anew.** A missing capability, two sources with
one object, and whatever else keeps the include folders or the tasks from being known leave
everything as it was. Once they are known the files that are left are those outside the build
folder, however compiling ends. -/
theorem compileModule_files (c : Compilation) (m : Module) (others : List Module)
    (flags : List String) (w : Workshop) :
    (∀ missing, Capability.exportersFor others m = .error missing →
        (c.compileModule m others flags).run w = (.error (.missingCapability missing), w))
      ∧ (∀ first second object, Collide w m first second object →
        ∃ f, (c.compileModule m others flags).run w = (.error f, w))
      ∧ (∀ f w', (c.compileModule m others flags).run w = (.error f, w') →
        f.isRejection = true → w' = w)
      ∧ (¬ c.Passes w m others → ∃ f, (c.compileModule m others flags).run w = (.error f, w))
      ∧ (c.Passes w m others → ∀ r w', (c.compileModule m others flags).run w = (r, w') →
        ∀ place content, w'.disk.get? place = some (.file content)
          ↔ w.disk.get? place = some (.file content) ∧ ¬ w.Within m.buildDir place) := by
  refine ⟨fun _ => compileModule_of_missing, fun _ _ _ hcollide => ?_, fun f w' hrun hf => ?_,
    compileModule_of_not_passes, fun hpasses r w' hrun => ?_⟩
  · exact compileModule_of_not_passes (not_passes_of_collide hcollide)
  · by_cases hpasses : c.Passes w m others
    · have hlate := (compileModule_of_passes flags hpasses).2 f (by rw [hrun]; rfl)
      rw [hf] at hlate
      cases hlate
    · obtain ⟨f', hearly⟩ := compileModule_of_not_passes hpasses
      cases hearly.symm.trans hrun
      rfl
  · have hloses := (compileModule_of_passes flags hpasses).1
    rw [hrun] at hloses
    exact hloses

/-! ### A drum kit that was built before -/

/-- The drum kit with an object of an earlier build. The next compiler ends with an error. -/
def usedDrumShop (generated : String) : Workshop :=
  { drumShop generated with
    disk := ⟨(drumShop generated).disk.entries ++
      [(["Drums", "build"], .folder), (["Drums", "build", "Old.o"], .file .empty)]⟩
    outcomes := [{ exitCode := 1 }] }

def drumKit (required : List String) : Module :=
  { (default : Module) with name := "Drums", folder := drumsFolder, required }

def drumCompilation : Compilation := ⟨⟨⟨.top, ["Tools"]⟩⟩, "USA", []⟩

theorem compileModule_files_drums :
    (drumCompilation.compileModule (drumKit ["Sticks"]) [] []).run (usedDrumShop ".s")
        = (.error (.missingCapability ⟨"Sticks", "Drums"⟩), usedDrumShop ".s")
      ∧ (∃ f, (drumCompilation.compileModule (drumKit []) [] []).run (usedDrumShop "Kick.s")
        = (.error f, usedDrumShop "Kick.s"))
      ∧ ∃ f w', (drumCompilation.compileModule (drumKit []) [] []).run (usedDrumShop ".s")
          = (.error f, w')
        ∧ (∀ content, w'.disk.get? ["Drums", "build", "Old.o"] ≠ some (.file content))
        ∧ w'.disk.get? ["Drums", "source", "Kick.cpp"] = some (.file .empty) := by
  refine ⟨?_, ?_, ?_⟩
  · exact (compileModule_files _ _ _ _ _).1 _ rfl
  · have hrejected : (failure? ((drumCompilation.compileModule (drumKit []) [] []).run
        (usedDrumShop "Kick.s")).1).any (·.isRejection) = true := by
      decide +kernel
    cases hrun : (drumCompilation.compileModule (drumKit []) [] []).run
        (usedDrumShop "Kick.s") with
    | mk result w' =>
        rw [hrun] at hrejected
        cases result with
        | ok objects => cases hrejected
        | error f =>
            obtain ⟨-, -, hstays, -⟩ := compileModule_files drumCompilation (drumKit []) [] []
              (usedDrumShop "Kick.s")
            rw [hstays f w' hrun hrejected]
            exact ⟨f, rfl⟩
  · have hends : (((drumCompilation.compileModule (drumKit []) [] []).run
        (usedDrumShop ".s")).1.toOption.isSome,
        ((drumCompilation.compileModule (drumKit []) [] []).run
          (usedDrumShop ".s")).2.started.length) = (false, 1) := by
      decide +kernel
    obtain ⟨-, -, -, hrejects, hfiles⟩ := compileModule_files drumCompilation (drumKit []) [] []
      (usedDrumShop ".s")
    cases hrun : (drumCompilation.compileModule (drumKit []) [] []).run
        (usedDrumShop ".s") with
    | mk result w' =>
        rw [hrun] at hends
        cases result with
        | ok objects => cases hends
        | error f =>
            have hpasses : drumCompilation.Passes (usedDrumShop ".s") (drumKit []) [] := by
              by_contra hno
              obtain ⟨f', hrejected⟩ := hrejects hno
              cases hrejected.symm.trans hrun
              cases hends
            have hleft := hfiles hpasses _ w' hrun
            refine ⟨f, w', rfl, fun content hfile => ?_, (hleft _ _).mpr ⟨rfl, ?_⟩⟩
            · refine ((hleft _ _).mp hfile).2 ⟨by decide, ["Drums", "build"], ?_, by decide⟩
              rfl
            · rintro ⟨-, top, hfind, htop⟩
              have hbuild : (usedDrumShop ".s").disk.find (usedDrumShop ".s").here
                  (drumKit []).buildDir = .ok (["Drums", "build"], .folder) := rfl
              cases hbuild.symm.trans hfind
              exact absurd htop (by decide)

end Compilation

end PatchForge
