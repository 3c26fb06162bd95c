import PatchForge.Proofs.Build.Preflight
import PatchForge.Proofs.Compilation.Startable
import PatchForge.Proofs.Discovery.Account
import PatchForge.Proofs.Grants.Generation

/-!
# The processes of a build

Only compiling and linking start processes (`processless_generateAfresh`,
`processless_finish`). So the processes of a build with separate
compilation are those of its compilation, and one linker process after
them if all of them passed and the output folder can be made
(`run_trace`). At the first that does not pass the build ends.
-/

namespace PatchForge

open Work

/-! ## Work without processes -/

/-- No process is started. -/
abbrev processless : Contract := .keeping fun w => (w.started, w.outcomes)

section

variable {α β : Type} {x : Work α}

theorem processless_of_looking (h : Meets looking x) : Meets processless x := by
  intro w
  have hsilent : (x.run w).2.silent = w.silent := h w
  have hstarted := congrArg Workshop.started hsilent
  have houtcomes := congrArg Workshop.outcomes hsilent
  exact Prod.ext hstarted houtcomes

theorem processless_of_files (h : Meets onFiles x) : Meets processless x :=
  keeping_of_onFiles (fun _ _ => rfl) h

theorem processless_hears : Contract.Hears processless := fun _ _ => rfl

/-- The processes of a sequence that goes on without any are those of its first part. -/
theorem started_bind {k : α → Work β} (hk : ∀ a, Meets processless (k a)) (w : Workshop) :
    ((x >>= k).run w).2.started = (x.run w).2.started := by
  rw [run_bind]
  cases x.run w with
  | mk result w' =>
      cases result with
      | ok a => exact congrArg Prod.fst (hk a w')
      | error f => rfl

end

theorem processless_perform : ∀ a : Act, Meets processless a.perform
  | .say n => meets_say processless_hears n
  | .grant _ => fun _ => rfl
  | .make _ =>
      meets_bind (processless_of_files (onFiles_stageFile _ _)) fun _ =>
        meets_bind (fun _ => rfl) fun _ => processless_of_files (onFiles_renderInPlace _ _)
  | .stop f => keeping_fail f

theorem processless_generateAfresh (modules : List Module) (verbose : Bool) :
    Meets processless (generateAfresh modules verbose) :=
  meets_bind (fun _ => rfl) fun _ => meets_generateAll fun a _ => processless_perform a

theorem processless_copyDiscFile (folder output source : Path) :
    Meets processless (copyDiscFile folder output source) := by
  have hreplace : ∀ target, Meets processless (replaceFile source target) := fun target =>
    meets_replaceFile keeping_files processless_hears source
      (processless_of_files (onFiles_makeFolders _))
      fun _ => processless_of_files (onFiles_change target _)
  refine meets_bind (keeping_tryCatch (meets_bind (hreplace _) fun _ => meets_pure _) fun f => ?_)
    fun e => ?_
  · refine meets_ite ?_ (meets_bind (keeping_fail f) fun _ => meets_pure _)
    exact meets_bind (meets_say processless_hears _) fun _ => meets_pure _
  · cases e with
    | ok a => exact meets_pure _
    | error r => exact meets_pure _

/-! ## The linker -/

/-- Linking, once the output folder is there. -/
def linkInto (c : Compilation) (objects : List Path) (output : Path) : Work (Path × Path) := do
  let symbols ← symbolFolders c.toolchain c.modules
  let program := c.toolchain.linker (← get).windows
  let (binary, map) := Toolchain.outputPaths output c.region
  let code ← start program.text (linkArguments objects symbols c.region binary map)
  if code ≠ 0 then fail (.linker code)
  return (binary, map)

/-- The linker is started once, with the objects first. -/
theorem linkInto_started {c : Compilation} {objects : List Path} {output : Path}
    (hplain : c.Plain) (hloaded : ∀ m ∈ c.modules, m.Loaded)
    (hobjects : ∀ p ∈ objects, hasNull p = false) (houtput : hasNull output = false)
    (w : Workshop) :
    ∃ rest, ((linkInto c objects output).run w).2.started = w.started
      ++ [(c.toolchain.linker w.windows).text :: (objects.map Path.text ++ rest)] := by
  let symbols := c.toolchain.symbolsDir :: (c.modules.map (·.symbolsDir)).filter w.hasFolder
  have hfound : (symbolFolders c.toolchain c.modules).run w = (.ok symbols, w) := by
    rw [symbolFolders, run_bind]
    rcases filterM_isFolder_run (c.modules.map (·.symbolsDir)) w with hrun | ⟨p, hp, hlong, -⟩
    · rw [hrun]
      rfl
    · obtain ⟨m, hm, rfl⟩ := List.mem_map.mp hp
      have hshort : ¬ m.symbolsDir.TooLong :=
        (hloaded m hm).not_tooLong_child (by decide) (by decide)
      exact (hshort hlong).elim
  have hsymbols : ∀ p ∈ symbols, hasNull p = false := by
    refine List.forall_mem_cons.mpr ⟨hasNull_child hplain.toolchain (by decide), fun p hp => ?_⟩
    exact (Workshop.hasFolder_iff.mp (List.mem_filter.mp hp).2).1
  rw [linkInto, run_bind, hfound]
  dsimp only
  rw [run_bind, run_get]
  dsimp only
  rw [started_bind fun code => meets_when (keeping_fail _) (meets_pure _)]
  obtain ⟨w', -, -, hstarted, -, hstart⟩ :=
    start_outcome (Compilation.startable_link hplain hobjects hsymbols houtput w.windows) w
  rw [hstart, hstarted, linkArguments, List.append_assoc]
  exact ⟨_, rfl⟩

/-- Linking makes the output folder first. -/
theorem link_run (c : Compilation) (objects : List Path) (output : Path) (w : Workshop) :
    ∃ w', w'.started = w.started ∧ w'.windows = w.windows
      ∧ (link c objects output).run w = match ((makeFolders output).run w).1 with
        | .ok _ => (linkInto c objects output).run w'
        | .error f => (.error f, w') := by
  let notice : Notice := .info "Linking..." "link"
  let w₁ : Workshop := { w with said := w.said ++ [notice.shown] }
  have hthen : (link c objects output).run w = (do
      makeFolders output
      linkInto c objects output).run w₁ := rfl
  -- what was said before does not count
  have hresult := (alike_makeFolders output w w₁ rfl).1
  have hstays : OnFiles w₁ ((makeFolders output).run w₁).2 := onFiles_makeFolders output w₁
  rw [run_bind] at hthen
  cases hfolders : (makeFolders output).run w₁ with
  | mk result w₂ =>
      rw [hfolders] at hthen hresult hstays
      have hstays : w₂ = w₁.onDisk w₂.disk := hstays
      refine ⟨w₂, by rw [hstays]; rfl, by rw [hstays]; rfl, ?_⟩
      rw [hthen, hresult]
      cases result <;> rfl

theorem link_started {c : Compilation} {objects : List Path} {output : Path} {w : Workshop}
    (hplain : c.Plain) (hloaded : ∀ m ∈ c.modules, m.Loaded)
    (hobjects : ∀ p ∈ objects, hasNull p = false)
    (houtput : ((makeFolders output).run w).1 = .ok ()) :
    ∃ rest, ((link c objects output).run w).2.started = w.started
      ++ [(c.toolchain.linker w.windows).text :: (objects.map Path.text ++ rest)] := by
  have hnull : hasNull output = false := by
    refine Bool.eq_false_iff.mpr fun hnull => ?_
    rw [makeFolders_of_null hnull] at houtput
    cases houtput
  obtain ⟨w', hstarted, hwindows, hrun⟩ := link_run c objects output w
  rw [hrun, houtput, ← hstarted, ← hwindows]
  exact linkInto_started hplain hloaded hobjects hnull w'

/-- Without an output folder nothing is linked. -/
theorem link_unstarted (c : Compilation) (objects : List Path) {output : Path} {w : Workshop}
    (houtput : ((makeFolders output).run w).1 ≠ .ok ()) :
    ((link c objects output).run w).2.started = w.started := by
  obtain ⟨w', hstarted, -, hrun⟩ := link_run c objects output w
  rw [hrun]
  cases hresult : ((makeFolders output).run w).1 with
  | ok u => exact (houtput hresult).elim
  | error f => exact hstarted

namespace Build

theorem processless_finish (modules : List Module) (output : Path) (copyDisc : Bool)
    (made : List Path → Build) :
    Meets processless (do
      let discFiles ← if copyDisc then copyAllDiscFiles modules output else pure []
      Work.say (.success "Complete!" "sparkles")
      return made discFiles) :=
  meets_finish processless_hears (meets_copyAllDiscFiles keeping_files processless_hears
    (fun folder source => processless_copyDiscFile folder output source) modules) copyDisc made

/-! ## The compilation of a build -/

/-- What a build does before it compiles. It gives the modules. -/
def prepare (plan : BuildPlan) : Work (List Module) := do
  plan.check true
  let (modules, _) ← load plan
  let _ ← generateAfresh modules true
  return modules

/-- Where the build links to. -/
def output (plan : BuildPlan) : Path := Path.parse (plan.outputFolder.getD "")

/-- The build of the plan from `w₀` gets as far as compiling `c`, source by source, at `w`. -/
structure Reaches (plan : BuildPlan) (w₀ : Workshop) (c : Compilation) (w : Workshop) : Prop where
  prepared : (prepare plan).run w₀ = (.ok c.modules, w)
  separate : plan.unit = false
  compilation : c = ⟨plan.toolchain, plan.region.getD "", c.modules⟩

/-- The modules that a build compiles were loaded and resolve. -/
theorem prepare_ok {plan : BuildPlan} {w w' : Workshop} {modules : List Module}
    (h : (prepare plan).run w = (.ok modules, w')) :
    (∀ m ∈ modules, m.Loaded) ∧ ∃ resolved, Capability.verify modules = .ok resolved := by
  obtain ⟨_, _, -, hthen⟩ := bind_ok.mp h
  obtain ⟨⟨found, resolved⟩, _, hload, hthen⟩ := bind_ok.mp hthen
  obtain ⟨_, _, -, hpure⟩ := bind_ok.mp hthen
  cases hpure
  obtain ⟨hverify, _, _, _, hdiscover, rfl⟩ := load_found hload
  exact ⟨discover_loaded hdiscover, resolved, hverify⟩

namespace Reaches

variable {plan : BuildPlan} {c : Compilation} {w₀ w w' : Workshop}

/-- Nothing is started before the compilation. -/
theorem started (h : Reaches plan w₀ c w) :
    w.started = w₀.started ∧ w.outcomes = w₀.outcomes := by
  have hprepare : Meets processless (prepare plan) :=
    meets_bind (processless_of_looking (looking_check plan true)) fun _ =>
      meets_bind (processless_of_looking (looking_load plan)) fun _ =>
        meets_bind (processless_generateAfresh _ true) fun _ => meets_pure _
  exact Prod.ext_iff.mp (hprepare.ok h.prepared)

/-- The plan of a build that compiles has a region and a toolchain. -/
theorem plain (h : Reaches plan w₀ c w) : c.Plain := by
  obtain ⟨_, w₁, hcheck, -⟩ := bind_ok.mp h.prepared
  obtain ⟨⟨region, hregion, hknown⟩, folder, hfolder, hthere⟩ := BuildPlan.check_toolchain hcheck
  rw [h.compilation]
  refine ⟨?_, ?_⟩
  · rw [BuildPlan.toolchain, hfolder]
    exact (Workshop.hasFolder_iff.mp hthere).1
  · rw [hregion]
    exact hknown

/-- Only folders of modules are granted. -/
theorem noNull_grants (h : Reaches plan w₀ c w) (hloaded : ∀ m ∈ c.modules, m.Loaded) :
    ∀ name, ∀ q ∈ w.grants.get name, hasNull q = false := by
  obtain ⟨_, w₁, -, hthen⟩ := bind_ok.mp h.prepared
  obtain ⟨⟨modules, resolved⟩, w₂, -, hthen⟩ := bind_ok.mp hthen
  obtain ⟨generation, w₃, hgenerate, hpure⟩ := bind_ok.mp hthen
  cases hpure
  intro name q hq
  obtain ⟨_, -, _, -, -, -, x, hx, -, rfl⟩ := (mem_grants_generateAfresh hgenerate).mp hq
  exact ((hloaded x hx).usable "include" (by decide)).noNull

/-- It is the flags of the modules that decide whether compilers and assemblers can be started. -/
theorem startable_iff {t : Module → Compilation.Tasks} (h : Reaches plan w₀ c w)
    (hcompilable : c.Compilable w t) : ∀ call ∈ c.calls w t,
      (Startable call ↔ ∀ flag ∈ moduleFlags c.modules, holdsNull flag = false) :=
  fun _ hcall => Compilation.startable_calls hcompilable h.plain
    (h.noNull_grants hcompilable.loaded) hcall

/-- Without null characters in the flags every call can be started. -/
theorem startable {t : Module → Compilation.Tasks} (h : Reaches plan w₀ c w)
    (hcompilable : c.Compilable w t)
    (hflags : ∀ flag ∈ moduleFlags c.modules, holdsNull flag = false) (i : Nat) :
    Startable ((c.calls w t).getD i []) :=
  startable_getD (fun call hcall => (h.startable_iff hcompilable call hcall).mpr hflags) i

theorem outcome (h : Reaches plan w₀ c w) (i : Nat) : w.outcome i = w₀.outcome i := by
  rw [Workshop.outcome, h.started.2]
  rfl

/-- Without null characters in the flags a call passes if its process ends well. -/
theorem passes {t : Module → Compilation.Tasks} {i : Nat} (h : Reaches plan w₀ c w)
    (hcompilable : c.Compilable w t)
    (hflags : ∀ flag ∈ moduleFlags c.modules, holdsNull flag = false)
    (hends : (w₀.outcome i).EndsWell) : CallPasses (c.calls w t) w i :=
  ⟨h.startable hcompilable hflags i, h.outcome i ▸ hends⟩

theorem run (h : Reaches plan w₀ c w) :
    ∃ b, (Build.run plan false).run w₀ = (assemble plan c.modules b).run w := by
  obtain ⟨_, w₁, hcheck, hthen⟩ := bind_ok.mp h.prepared
  obtain ⟨⟨modules, resolved⟩, w₂, hload, hthen⟩ := bind_ok.mp hthen
  obtain ⟨generation, w₃, hgenerate, hpure⟩ := bind_ok.mp hthen
  cases hpure
  refine ⟨⟨c.modules.map (·.name), resolved, generation.files, [], none, []⟩, ?_⟩
  have hcheck' : (plan.check (!false)).run w₀ = (.ok (), w₁) := hcheck
  rw [Build.run, run_bind, hcheck']
  dsimp only
  rw [run_bind, hload]
  dsimp only
  rw [run_bind, hgenerate]
  rfl

theorem compile (h : Reaches plan w₀ c w) : Build.compile plan
    ⟨plan.toolchain, plan.region.getD "", c.modules⟩ (output plan) = c.compileAll := by
  rw [Build.compile, h.separate, ← h.compilation]
  rfl

/-- If the compilation fails, so does the build, there and then. -/
theorem run_of_error {f : Failure} (h : Reaches plan w₀ c w)
    (hfails : c.compileAll.run w = (.error f, w')) :
    (Build.run plan false).run w₀ = (.error f, w') := by
  obtain ⟨b, hrun⟩ := h.run
  have hcompile := h.compile ▸ hfails
  rw [hrun]
  exact bind_error.mpr (Or.inl hcompile)

/-- After the compilation, only linking starts processes. -/
theorem started_of_ok {objects : List Path} (h : Reaches plan w₀ c w) (hlink : plan.link = true)
    (hcompiles : c.compileAll.run w = (.ok objects, w')) :
    ((Build.run plan false).run w₀).2.started
      = ((PatchForge.link c objects (output plan)).run w').2.started := by
  obtain ⟨b, hrun⟩ := h.run
  have hcompile : (Build.compile plan ⟨plan.toolchain, plan.region.getD "", c.modules⟩
      (output plan)).run w = (.ok objects, w') := h.compile ▸ hcompiles
  have hthen : (assemble plan c.modules b).run w = (do
      let linked ← some <$> PatchForge.link c objects (output plan)
      let discFiles ← if plan.copyDisc then copyAllDiscFiles c.modules (output plan) else pure []
      Work.say (.success "Complete!" "sparkles")
      return ({ b with objects, linked, discFiles } : Build)).run w' := by
    rw [assemble, run_bind, ← output, hcompile]
    dsimp only
    rw [if_pos hlink, ← h.compilation]
  rw [hrun, hthen, started_bind fun linked => processless_finish c.modules (output plan)
    plan.copyDisc fun discFiles => { b with objects, linked, discFiles }, map_eq_pure_bind,
    started_bind fun _ => meets_pure _]

/-- Where the output folder has a name that is too long, nothing is linked. -/
theorem started_of_tooLong {t : Module → Compilation.Tasks} (h : Reaches plan w₀ c w)
    (hcompilable : c.Compilable w t) (hlink : plan.link = true) (hlong : (output plan).TooLong)
    (hpasses : ∀ i < (c.calls w t).length, CallPasses (c.calls w t) w i) :
    ((Build.run plan false).run w₀).2.started = w.started ++ c.calls w t := by
  obtain ⟨w', hcompiles, hstarted, -⟩ := Compilation.compileAll_completes hcompilable hpasses
  rw [h.started_of_ok hlink hcompiles, link_unstarted c _ (makeFolders_of_tooLong hlong w'),
    hstarted]

/-- With a null character in a flag no process is started. -/
theorem run_barred {t : Module → Compilation.Tasks} {flag : String} (h : Reaches plan w₀ c w)
    (hcompilable : c.Compilable w t) (hsome : 0 < (c.calls w t).length)
    (hflag : flag ∈ moduleFlags c.modules) (hnull : holdsNull flag = true) :
    ∃ w', (Build.run plan false).run w₀ = (.error .nullCharacter, w')
      ∧ w'.started = w.started := by
  have hbarred : ¬ Startable ((c.calls w t).getD 0 []) := by
    rw [List.getD_eq_getElem _ _ hsome, h.startable_iff hcompilable _ (List.getElem_mem _)]
    intro hnone
    rw [hnone flag hflag] at hnull
    cases hnull
  obtain ⟨n, f, w', hstops, hfails, hstarted, -⟩ := Compilation.compileAll_stops hcompilable hsome
    (fun j hj => (Nat.not_lt_zero j hj).elim) fun hpasses => hbarred hpasses.1
  cases hstops with
  | barred =>
      refine ⟨w', h.run_of_error hfails, ?_⟩
      rw [hstarted, List.take_zero, List.append_nil]
  | garbled hstartable => exact (hbarred hstartable).elim
  | unmade hstartable => exact (hbarred hstartable).elim

/-- If the first process says bytes that are no text, it is the only one. -/
theorem run_garbled {t : Module → Compilation.Tasks} {fault : Text.Utf8Fault}
    (h : Reaches plan w₀ c w) (hcompilable : c.Compilable w t) (hsome : 0 < (c.calls w t).length)
    (hflags : ∀ flag ∈ moduleFlags c.modules, holdsNull flag = false)
    (hstarts : (w.outcome 0).refused = none) (htexts : (w.outcome 0).texts = .error fault) :
    ∃ w', (Build.run plan false).run w₀ = (.error (.utf8 fault), w')
      ∧ w'.started = w.started ++ (c.calls w t).take 1 := by
  have hill : ¬ CallPasses (c.calls w t) w 0 :=
    Stops.not_passes (.garbled (h.startable hcompilable hflags 0) hstarts htexts)
  obtain ⟨n, f, w', hstops, hfails, hstarted, -⟩ := Compilation.compileAll_stops hcompilable hsome
    (fun j hj => (Nat.not_lt_zero j hj).elim) hill
  cases hstops with
  | barred hnull => exact (hnull (h.startable hcompilable hflags 0)).elim
  | garbled _ _ hfault =>
      rw [hfault] at htexts
      cases htexts
      exact ⟨w', h.run_of_error hfails, hstarted⟩
  | unmade _ hread =>
      have hok := (hread hstarts).1
      rw [htexts] at hok
      cases hok

end Reaches

/-- A module that is compiled with the flags of a list, written as a declaration writes it. -/
def engineShop (flags : String) (outcomes : List Outcome) : Workshop :=
  { (default : Workshop) with
    outcomes
    disk := ⟨[(["Syati"], .folder), (["Mods"], .folder), (["Mods", "Engine"], .folder),
      (["Mods", "Engine", "ModuleInfo.json"],
        .file ("\x7b\"Name\": \"Engine\", \"CompilerFlags\": " ++ flags ++ "\x7d").toUTF8),
      (["Mods", "Engine", "source"], .folder),
      (["Mods", "Engine", "source", "Main.cpp"], .file .empty),
      (["Mods", "Engine", "codebuild"], .folder),
      (["Mods", "Engine", "codebuild", "Boot.s"], .file .empty)]⟩ }

def enginePlan (outputFolder : String) : BuildPlan where
  region := some "USA"
  toolchainFolder := .str "/Syati"
  modulesFolder := some "/Mods"
  outputFolder := some outputFolder

/-- The tasks that a build with one module comes to, if its compilation has what it needs. -/
def survey (plan : BuildPlan) (w₀ : Workshop) : Option (List Compilation.Task) :=
  match (prepare plan).run w₀ with
  | (.error _, _) => none
  | (.ok modules, w) =>
    let c : Compilation := ⟨plan.toolchain, plan.region.getD "", modules⟩
    let found (m : Module) := ((Compilation.tasks m).run w).1.toOption
    if modules.length = 1 ∧ (∀ m ∈ modules, (found m).isSome ∧ w.hasFile m.buildDir = false)
        ∧ ∀ e ∈ w.disk.entries, hasNull ⟨.top, e.1⟩ = false
          ∧ (w.disk.follow [] ⟨.top, e.1⟩).toOption = some e.1 then
      some (c.taskList fun m => (found m).getD default)
    else none

theorem survey_some {plan : BuildPlan} {w₀ : Workshop} {l : List Compilation.Task}
    (hunit : plan.unit = false) (h : survey plan w₀ = some l) :
    ∃ c w t, Reaches plan w₀ c w ∧ c.Compilable w t ∧ c.taskList t = l := by
  unfold survey at h
  cases hprepare : (prepare plan).run w₀ with
  | mk result w =>
      rw [hprepare] at h
      cases result with
      | error f => cases h
      | ok modules =>
          obtain ⟨⟨hone, hmodules, hentries⟩, htasks⟩ := Option.ite_none_right_eq_some.mp h
          obtain ⟨hloaded, hresolved⟩ := prepare_ok hprepare
          refine ⟨_, w, _, ⟨hprepare, hunit, rfl⟩, ?_, Option.some.inj htasks⟩
          refine ⟨hloaded, ?_, hresolved, fun m hm => ?_, fun m hm => (hmodules m hm).2,
            fun e he => ?_⟩
          · obtain ⟨m, rfl⟩ := List.length_eq_one_iff.mp hone
            exact List.pairwise_singleton _ m
          · obtain ⟨found, hfound⟩ := Option.isSome_iff_exists.mp (hmodules m hm).1
            rw [hfound]
            exact Result.toOption_some.mp hfound
          · exact ⟨(hentries e he).1, Result.toOption_some.mp (hentries e he).2⟩

theorem survey_calls {plan : BuildPlan} {w₀ : Workshop} {n : Nat} (hunit : plan.unit = false)
    (h : (survey plan w₀).map List.length = some n) :
    ∃ c w t, Reaches plan w₀ c w ∧ c.Compilable w t ∧ (c.calls w t).length = n := by
  obtain ⟨l, hl, rfl⟩ := Option.map_eq_some_iff.mp h
  obtain ⟨c, w, t, hreaches, hcompilable, rfl⟩ := survey_some hunit hl
  exact ⟨c, w, t, hreaches, hcompilable, (Compilation.calls_isFor c w t).length_eq⟩

/-- The flags of the modules that a build from there comes to. -/
def flagsOf (plan : BuildPlan) (w₀ : Workshop) : Option (List String) :=
  ((prepare plan).run w₀).1.toOption.map moduleFlags

theorem Reaches.flagsOf_eq {plan : BuildPlan} {c : Compilation} {w₀ w : Workshop}
    (h : Reaches plan w₀ c w) : flagsOf plan w₀ = some (moduleFlags c.modules) := by
  rw [flagsOf, h.prepared]
  rfl

theorem Reaches.noNull_of_flagsOf {plan : BuildPlan} {c : Compilation} {w₀ w : Workshop}
    (h : Reaches plan w₀ c w) (hnone : flagsOf plan w₀ = some []) :
    ∀ flag ∈ moduleFlags c.modules, holdsNull flag = false := by
  have hempty : moduleFlags c.modules = [] := Option.some.inj (h.flagsOf_eq.symm.trans hnone)
  rw [hempty]
  exact List.forall_mem_nil _

/-- A name that no folder can have. -/
def longName : String := String.ofList (List.replicate (Disk.nameLimit + 1) 'o')

theorem size_ofList_replicate (n : Nat) :
    (String.ofList (List.replicate n 'o')).utf8ByteSize = n := by
  induction n with
  | zero => rfl
  | succ n ih =>
      rw [List.replicate_succ, String.ofList_cons, String.utf8ByteSize_append, ih,
        String.utf8ByteSize_singleton, Nat.add_comm]
      rfl

theorem tooLong_replicate {n : Nat} (hn : Disk.nameLimit < n) :
    (Path.parse (String.ofList (List.replicate n 'o'))).TooLong := by
  have hslash : '/' ∉ List.replicate n 'o' := fun hmem =>
    absurd (List.eq_of_mem_replicate hmem) (by decide)
  have hdot : List.replicate n 'o' ≠ ['.'] := fun heq => by
    have hmem : '.' ∈ List.replicate n 'o' := heq ▸ List.mem_singleton_self _
    exact absurd (List.eq_of_mem_replicate hmem) (by decide)
  have hne : List.replicate n 'o' ≠ [] := fun heq => by
    rw [List.replicate_eq_nil_iff] at heq
    exact absurd hn (by rw [heq]; exact Nat.not_lt_zero _)
  refine Or.inr ⟨String.ofList (List.replicate n 'o'), ?_, ?_⟩
  · show _ ∈ Path.namesOf _
    rw [String.toList_ofList, Path.namesOf_of_notMem hslash hne hdot]
    exact List.mem_singleton_self _
  · rwa [size_ofList_replicate]

theorem tooLong_longName : (output (enginePlan longName)).TooLong :=
  tooLong_replicate (Nat.lt_succ_self _)

/-- A process that ends with code zero after a byte that is no text. -/
def garble : Outcome := { output := ⟨#[255]⟩ }

end Build

end PatchForge
