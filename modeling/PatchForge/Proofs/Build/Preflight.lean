import PatchForge.Proofs.Build.Looking
import PatchForge.Proofs.Capability.Resolution
import PatchForge.Proofs.Generation.Act
import PatchForge.Proofs.Work.Frame

/-!
# A build fails early or for other reasons

The plan, the declarations and the set of modules are looked at before
anything is written (`looking_load`). What comes after fails, if at all,
for other reasons: these are the `late` phases. One of them, compiling,
looks up capabilities once more, and there they are the ones that were
verified (`late_compile`).

So a failure of one of the early kinds leaves the file tree alone and
comes before the first process (`run_failFast`).
-/

namespace PatchForge

open Work

/-- Failures of the plan, of declarations and of the set of modules. -/
def Failure.isPreflight : Failure → Bool
  | .configuration _ | .load .. | .clash _ | .missingCapability _ => true
  | _ => false

theorem Failure.isPreflight_of_isOfFiles {f : Failure} (h : f.isOfFiles) :
    f.isPreflight = false := by
  cases f with
  | configuration | load | clash | missingCapability => cases h
  | _ => rfl

/-- It fails, if at all, for reasons that only come up after the preflight. -/
abbrev late : Contract := .failingBy fun f => f.isPreflight = false

section

variable {α : Type} {x : Work α}

theorem late_fail {f : Failure} (h : f.isPreflight = false) : Meets late (fail f : Work α) :=
  failingBy_fail h

theorem late_files : Contract.Admits late (·.isOfFiles) :=
  failingBy_admits fun _ => Failure.isPreflight_of_isOfFiles

theorem late_of_files (h : Meets failingByFiles x) : Meets late x :=
  failingBy_mono (fun _ => Failure.isPreflight_of_isOfFiles) h

theorem late_hears : Contract.Hears late := failingBy_hears _

end

/-! ## Generation -/

/-- Acts fail by their files, at a rendering, or because they stop. -/
theorem failing_perform {E : Failure → Prop} (hfiles : ∀ f, f.isOfFiles → E f)
    (hrender : ∀ fault, E (.render fault)) (a : Act) (hstop : ∀ f, a = .stop f → E f) :
    Meets (.failingBy E) a.perform := by
  have hchange : ∀ p operation, Meets (.failingBy E) (change p operation) :=
    fun p operation => failingBy_mono hfiles (failing_change p operation)
  have hadmits : Contract.Admits (.failingBy E) (·.isOfFiles) := failingBy_admits hfiles
  cases a with
  | say n => exact meets_say (failingBy_hears E) n
  | grant g => exact failingBy_modify _
  | make j =>
      refine meets_bind (meets_stageFile hadmits _ (hchange _ _)
        (failingBy_mono hfiles (failing_makeFolders _)) fun _ => hchange _ _) fun _ => ?_
      refine meets_bind (failingBy_modify _) fun _ => ?_
      exact meets_renderInPlace hadmits (fun fault => failingBy_fail (hrender fault))
        fun _ => hchange _ _
  | stop f => exact failingBy_fail (hstop f rfl)

theorem late_generateAfresh (modules : List Module) (verbose : Bool) :
    Meets late (generateAfresh modules verbose) := by
  refine meets_bind (failingBy_modify _) fun _ => ?_
  refine meets_generateAll fun a ha => ?_
  refine failing_perform (fun _ => Failure.isPreflight_of_isOfFiles) (fun _ => rfl) a fun f hf => ?_
  subst hf
  rcases stop_generationActs ha with
    ⟨_, rfl⟩ | ⟨_, -, _, -, _, _, -, -, -, rfl⟩ | ⟨_, -, _, -, _, rfl, -⟩
  · rfl
  · rfl
  · rfl

/-! ## Processes -/

section

variable {E : Failure → Prop} {program : Path} {flags : List String} {verb : String}
  {failure : Path → ToolchainFault} {j : Toolchain.Job}

/-- Starting a process fails by its texts, that it is given or says, or by being refused. -/
theorem failing_start (hfiles : ∀ f, f.isOfFiles → E f)
    (hrefused : ∀ program error, E (.toolchain (.notStarted program error)))
    (program : String) (arguments : List String) :
    Meets (.failingBy E) (start program arguments) := by
  refine meets_when (failingBy_fail (hfiles _ rfl)) ?_
  refine meets_bind meets_get fun w => meets_bind (failingBy_set _) fun _ => ?_
  split
  · exact failingBy_fail (hrefused _ _)
  · refine meets_bind (meets_ofExcept fun fault _ => failingBy_fail (hfiles _ rfl)) fun _ => ?_
    exact meets_bind (meets_sayLines (failingBy_hears E) _) fun _ =>
      meets_bind (meets_sayLines (failingBy_hears E) _) fun _ => meets_pure _

/-- A job fails by its files, or because its process was refused or did not end well. -/
theorem failing_build (hfiles : ∀ f, f.isOfFiles → E f)
    (hrefused : ∀ program error, E (.toolchain (.notStarted program error)))
    (hfailure : ∀ source, E (.toolchain (failure source))) :
    Meets (.failingBy E) (Toolchain.build program flags verb failure j) := by
  refine meets_bind (meets_say (failingBy_hears E) _) fun _ => ?_
  refine meets_bind (failingBy_mono hfiles (failing_makeFolders _)) fun _ => ?_
  exact meets_bind (failing_start hfiles hrefused _ _) fun code =>
    meets_ite (failingBy_fail (hfailure _)) (meets_pure _)

theorem late_start (program : String) (arguments : List String) :
    Meets late (start program arguments) :=
  failing_start (fun _ => Failure.isPreflight_of_isOfFiles) (fun _ _ => rfl) program arguments

theorem late_build : Meets late (Toolchain.build program flags verb failure j) :=
  failing_build (fun _ => Failure.isPreflight_of_isOfFiles) (fun _ _ => rfl) fun _ => rfl

end

/-! ## Compiling -/

namespace Compilation

section

variable {m : Module} {others : List Module}

theorem late_dependencyFolders
    (h : ∃ exporters, Capability.exportersFor others m = .ok exporters) :
    Meets late (dependencyFolders m others) := by
  obtain ⟨exporters, hexporters⟩ := h
  refine meets_bind (meets_ofExcept fun missing hmissing => ?_) fun exporters => ?_
  · rw [hexporters] at hmissing
    cases hmissing
  · exact meets_bind (meets_filterM (meets_isFolder late_files) _) fun _ => meets_pure _

theorem late_includeFolders (c : Compilation)
    (h : ∃ exporters, Capability.exportersFor others m = .ok exporters) :
    Meets late (c.includeFolders m others) :=
  meets_bind (late_dependencyFolders h) fun _ => meets_bind meets_get fun _ => meets_pure _

theorem late_sourcesBelow (folder : Path) (suffix : String) :
    Meets late (sourcesBelow folder suffix) :=
  meets_bind (meets_below late_files folder) fun _ => meets_pure _

theorem late_tasks (m : Module) : Meets late (tasks m) := by
  refine meets_foldlM _ fun folder _ t => ?_
  refine meets_bind (meets_isFolder late_files folder) fun there => meets_ite ?_ (meets_pure t)
  refine meets_foldlM t fun kind _ t => meets_bind (late_sourcesBelow folder kind.1) fun _ => ?_
  exact meets_ofExcept fun _ _ => late_fail rfl

theorem late_compileModule (c : Compilation) (flags : List String)
    (h : ∃ exporters, Capability.exportersFor others m = .ok exporters) :
    Meets late (c.compileModule m others flags) := by
  refine meets_bind (late_includeFolders c h) fun includes => ?_
  refine meets_bind (late_tasks m) fun t => ?_
  refine meets_bind (meets_exists late_files _) fun there => ?_
  refine meets_when (late_of_files (failing_removeTree _)) ?_
  refine meets_bind (meets_forM fun _ _ => late_build) fun _ => ?_
  exact meets_bind (meets_forM fun _ _ => late_build) fun _ => meets_pure _

theorem late_unitBuild_add (u : UnitBuild) {e : Module × List Module}
    (h : ∃ exporters, Capability.exportersFor e.2 e.1 = .ok exporters) :
    Meets late (u.add e) := by
  refine meets_bind (late_dependencyFolders h) fun dependencies => ?_
  refine meets_bind meets_get fun w => ?_
  refine meets_bind (meets_isFolder late_files _) fun there => meets_ite (meets_pure _) ?_
  refine meets_bind (late_sourcesBelow _ _) fun sources => ?_
  exact meets_bind (late_sourcesBelow _ _) fun _ => meets_when (late_fail rfl) (meets_pure _)

end

variable {c : Compilation}
  (h : ∀ e ∈ Capability.withOthers c.modules,
    ∃ exporters, Capability.exportersFor e.2 e.1 = .ok exporters)

include h

theorem late_compileAll : Meets late c.compileAll :=
  meets_bind (meets_mapM fun e he => late_compileModule c c.flags (h e he)) fun _ => meets_pure _

theorem late_compileUnit (output : Path) : Meets late (c.compileUnit output) := by
  refine meets_bind (meets_foldlM _ fun e he u => late_unitBuild_add u (h e he)) fun u => ?_
  refine meets_bind (late_of_files (failing_makeFolders _)) fun _ => ?_
  refine meets_bind (late_of_files (failing_writeText _ _)) fun _ => ?_
  exact meets_bind late_build fun _ => meets_pure _

end Compilation

/-- In a set that was verified, compiling misses no capability. -/
theorem late_compile (plan : BuildPlan) {c : Compilation} (output : Path)
    {resolved : Dict String (List String)} (h : Capability.verify c.modules = .ok resolved) :
    Meets late (Build.compile plan c output) := by
  have hexporters : ∀ e ∈ Capability.withOthers c.modules,
      ∃ exporters, Capability.exportersFor e.2 e.1 = .ok exporters :=
    fun _ he => Capability.exportersFor_of_verify h he
  exact meets_ite (Compilation.late_compileUnit hexporters output)
    (Compilation.late_compileAll hexporters)

/-! ## Linking and disc files -/

theorem late_link (c : Compilation) (objects : List Path) (output : Path) :
    Meets late (link c objects output) := by
  refine meets_bind (meets_say late_hears _) fun _ => ?_
  refine meets_bind (late_of_files (failing_makeFolders _)) fun _ => ?_
  have hsymbols : Meets late (symbolFolders c.toolchain c.modules) :=
    meets_bind (meets_filterM (meets_isFolder late_files) _) fun _ => meets_pure _
  refine meets_bind hsymbols fun symbols => meets_bind meets_get fun w => ?_
  exact meets_bind (late_start _ _) fun code => meets_when (late_fail rfl) (meets_pure _)

theorem meets_copyAllDiscFiles {C : Contract} (hfiles : C.Admits (·.isOfFiles)) (hsay : C.Hears)
    {output : Path} (hcopy : ∀ folder source, Meets C (copyDiscFile folder output source))
    (modules : List Module) : Meets C (copyAllDiscFiles modules output) := by
  refine meets_bind (meets_mapM fun m _ => ?_) fun _ => meets_pure _
  refine meets_bind (meets_isFolder hfiles m.discDir) fun there => meets_ite (meets_pure _) ?_
  refine meets_bind (meets_say hsay _) fun _ => ?_
  refine meets_bind (meets_bind (meets_below hfiles _) fun _ =>
    meets_filterM (meets_isFile hfiles) _) fun files => ?_
  exact meets_bind (meets_mapM fun file _ => hcopy _ file) fun _ => meets_pure _

/-- Replacing a file looks at it, makes folders, and otherwise changes nothing but it. -/
theorem meets_replaceFile {C : Contract} (hfiles : C.Admits (·.isOfFiles)) (hsay : C.Hears)
    (source : Path) {target : Path} (hfolders : Meets C (makeFolders target.parent))
    (hwrite : ∀ content, Meets C (Work.write target content)) :
    Meets C (replaceFile source target) := by
  refine meets_bind (meets_exists hfiles target) fun there => ?_
  refine meets_when (meets_say hsay _) ?_
  exact meets_bind hfolders fun _ => meets_copyFile hfiles source hwrite

theorem late_copyDiscFile (folder output source : Path) :
    Meets late (copyDiscFile folder output source) := by
  have hreplace : ∀ target, Meets late (replaceFile source target) := fun target =>
    meets_replaceFile late_files late_hears source (late_of_files (failing_makeFolders _))
      fun _ => late_of_files (failing_change target _)
  refine meets_bind (failingBy_tryCatch
    (meets_bind (hreplace _) fun _ => meets_pure _) fun f hf => ?_) fun e => ?_
  · refine meets_ite ?_ (meets_bind (late_fail hf) fun _ => meets_pure _)
    exact meets_bind (meets_say late_hears _) fun _ => meets_pure _
  · cases e with
    | ok a => exact meets_pure _
    | error r => exact meets_pure _

namespace Build

/-- After linking, disc files are copied if the plan says so. -/
theorem meets_finish {C : Contract} (hsay : C.Hears) {copy : Work (List Path)}
    (hcopy : Meets C copy) (copyDisc : Bool) (made : List Path → Build) :
    Meets C (do
      let discFiles ← if copyDisc then copy else pure []
      Work.say (.success "Complete!" "sparkles")
      return made discFiles) := by
  have hrest : ∀ discFiles, Meets C (do
      Work.say (.success "Complete!" "sparkles")
      return made discFiles) :=
    fun _ => meets_bind (meets_say hsay _) fun _ => meets_pure _
  exact meets_ite (meets_bind hcopy hrest) (meets_bind (meets_pure _) hrest)

theorem late_assemble (plan : BuildPlan) {modules : List Module} (b : Build)
    {resolved : Dict String (List String)} (h : Capability.verify modules = .ok resolved) :
    Meets late (assemble plan modules b) := by
  have hcopy := meets_copyAllDiscFiles late_files late_hears
    (fun folder source => late_copyDiscFile folder (Path.parse (plan.outputFolder.getD "")) source)
    modules
  have hfinish := fun objects linked => meets_finish late_hears hcopy plan.copyDisc
    fun discFiles => { b with objects, linked, discFiles }
  refine meets_bind (late_compile plan _ h) fun objects => meets_ite ?_ ?_
  · exact meets_bind (meets_map _ (late_link _ objects _)) fun linked => hfinish objects linked
  · exact meets_bind (meets_pure _) fun linked => hfinish objects linked

/-! ## Builds -/

/-- What is loaded was found, and verified. -/
theorem load_found {plan : BuildPlan} {w w' : Workshop} {modules : List Module}
    {resolved : Dict String (List String)}
    (h : (load plan).run w = (.ok (modules, resolved), w')) :
    Capability.verify modules = .ok resolved ∧ ∃ found w₁ w₂,
      (discover (Path.parse (plan.modulesFolder.getD "")) true).run w₁ = (.ok found, w₂)
        ∧ found.modules = modules := by
  obtain ⟨_, w₁, -, hthen⟩ := bind_ok.mp h
  obtain ⟨found, w₂, hfound, hthen⟩ := bind_ok.mp hthen
  obtain ⟨_, _, -, hthen⟩ := bind_ok.mp hthen
  obtain ⟨_, _, -, hthen⟩ := bind_ok.mp hthen
  obtain ⟨_, _, hverify, hpure⟩ := bind_ok.mp hthen
  cases hpure
  exact ⟨(ofExcept_ok.mp hverify).1, found, w₁, w₂, hfound, rfl⟩

theorem load_ok {plan : BuildPlan} {w w' : Workshop} {modules : List Module}
    {resolved : Dict String (List String)}
    (h : (load plan).run w = (.ok (modules, resolved), w')) :
    Capability.verify modules = .ok resolved := (load_found h).1

/-- **Fail-fast.** A build that fails by its configuration, by a declaration, by a clash or by a
capability that is missing leaves the file tree as it was and started no process. And in a set
of modules that was verified, compiling never misses a capability. -/
theorem run_failFast :
    (∀ plan codegenOnly w f w', (run plan codegenOnly).run w = (.error f, w') →
        f.isPreflight → w'.disk = w.disk ∧ w'.started = w.started)
      ∧ ∀ plan (c : Compilation) output resolved w missing w',
        Capability.verify c.modules = .ok resolved →
          (compile plan c output).run w ≠ (.error (.missingCapability missing), w') := by
  constructor
  · intro plan codegenOnly w f w' h hf
    rcases bind_error.mp h with hcheck | ⟨_, w₁, hcheck, hthen⟩
    · exact Workshop.eq_of_silent ((looking_check plan _).error hcheck)
    have hchecked : w₁.silent = w.silent := (looking_check plan _).ok hcheck
    rcases bind_error.mp hthen with hload | ⟨⟨modules, resolved⟩, w₂, hload, hrest⟩
    · exact Workshop.eq_of_silent (((looking_load plan).error hload).trans hchecked)
    -- from here on no failure is of these kinds
    have hlate : Meets late (do
        let generation ← generateAfresh modules true
        let b : Build :=
          { modules := modules.map (·.name), resolved, generated := generation.files }
        if codegenOnly then return b
        assemble plan modules b) :=
      meets_bind (late_generateAfresh modules true) fun _ =>
        meets_ite (meets_pure _) (late_assemble plan _ (load_ok hload))
    exact Bool.noConfusion (hf.symm.trans (hlate.error hrest f rfl))
  · intro plan c output resolved w missing w' hverify h
    cases (late_compile plan output hverify).error h _ rfl

/-! ### A module without the one it needs, and with it -/

def loneShop : Workshop :=
  { (default : Workshop) with
    disk := ⟨[(["Mods"], .folder), (["Mods", "Lone"], .folder),
      (["Mods", "Lone", "ModuleInfo.json"],
        .file "\x7b\"Name\": \"Lone\", \"ModuleDependancies\": [\"Base\"]\x7d".toUTF8)]⟩ }

def lonePlan : BuildPlan := { modulesFolder := some "Mods" }

def loneModule : Module := { (default : Module) with name := "Lone", required := ["Base"] }

def baseModule : Module :=
  { (default : Module) with
    name := "Base", exported := some (.str "Base"), exported_present := by decide }

theorem run_failFast_lone :
    (∃ f w', (run lonePlan true).run loneShop = (.error f, w') ∧ f.isPreflight
      ∧ w'.disk = loneShop.disk ∧ w'.started = loneShop.started)
    ∧ ∃ resolved, Capability.verify [baseModule, loneModule] = .ok resolved
      ∧ ∀ plan output w missing w',
        (compile plan ⟨⟨default⟩, "USA", [baseModule, loneModule]⟩ output).run w
          ≠ (.error (.missingCapability missing), w') := by
  constructor
  · have hfails : (failure? ((run lonePlan true).run loneShop).1).any Failure.isPreflight := by
      decide +kernel
    cases hrun : (run lonePlan true).run loneShop with
    | mk result w' =>
        rw [hrun] at hfails
        cases result with
        | ok b => cases hfails
        | error f => exact ⟨f, w', rfl, hfails, run_failFast.1 _ _ _ _ _ hrun hfails⟩
  · have hverify : (Capability.verify [baseModule, loneModule]).toOption
        = some [("Base", []), ("Lone", ["Base"])] := by
      decide +kernel
    refine ⟨_, Result.toOption_some.mp hverify, fun plan output w missing w' => ?_⟩
    exact run_failFast.2 plan _ output _ w missing w' (Result.toOption_some.mp hverify)

end Build

end PatchForge
