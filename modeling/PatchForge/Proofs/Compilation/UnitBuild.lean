import PatchForge.Proofs.Compilation.Folders
import PatchForge.Proofs.Compilation.Sources
import PatchForge.Proofs.Work.Processes

/-!
# The run of a unit build

A unit build first goes through the modules and only looks: it collects
folders and sources, or fails for a reason that lies in one module
(`UnitFault`). Then it writes one file and starts one process on it
(`compileUnit_run`). What it collected is read off the modules
(`unitBuild_ok`): `unitFolders` of each, and the sources below each
`source` folder.
-/

namespace PatchForge

open Work

/-! ## One process -/

namespace Toolchain

/-- Nothing was started, or the program on the job; the file tree gained folders at most. -/
theorem build_run {program : Path} {flags : List String} {verb : String}
    {failure : Path → ToolchainFault} {j : Job} {w w' : Workshop} {r : Except Failure Unit}
    (h : (build program flags verb failure j).run w = (r, w')) :
    Disk.Grows w.disk w'.disk
      ∧ ((w'.started = w.started ∧ ∃ f, r = .error f ∧ f.isOfFiles)
        ∨ w'.started = w.started ++ [program.text :: (expandFlags flags ++ j.arguments)]) := by
  let notice : Notice := .info (verb ++ " " ++ j.source.text) none
  let w₁ : Workshop := { w with said := w.said ++ [notice.shown] }
  have hthen : (do
      makeFolders j.object.parent
      let code ← start program.text (expandFlags flags ++ j.arguments)
      if code ≠ 0 then fail (.toolchain (failure j.source)) : Work Unit).run w₁ = (r, w') := h
  rw [run_bind] at hthen
  cases hfolders : (makeFolders j.object.parent).run w₁ with
  | mk result w₂ =>
      rw [hfolders] at hthen
      cases result with
      | error f =>
          cases hthen
          obtain ⟨hstays, hgrows⟩ := (growing_makeFoldersFrom _ _).error hfolders
          have hfiles := (failing_makeFolders _).error hfolders f rfl
          exact ⟨hgrows, Or.inl ⟨OnFiles.started (w := w₁) hstays, f, rfl, hfiles⟩⟩
      | ok u =>
          obtain ⟨hstays, hgrows⟩ := (growing_makeFoldersFrom _ _).ok hfolders
          have hkept : w₂.started = w.started := OnFiles.started (w := w₁) hstays
          dsimp only at hthen
          by_cases hstartable :
              Startable (program.text :: (expandFlags flags ++ j.arguments))
          · obtain ⟨w₃, hdisk, -, hstarted, -, hstart⟩ := start_outcome hstartable w₂
            -- however the process ends, the workshop is the one after it
            have hlast : w' = w₃ := by
              rw [run_bind, hstart] at hthen
              split at hthen
              · split at hthen
                · exact (Prod.mk.inj hthen).2.symm.trans (Prod.mk.inj ‹_›).2.symm
                · exact (Prod.mk.inj hthen).2.symm.trans (Prod.mk.inj ‹_›).2.symm
              · exact (Prod.mk.inj hthen).2.symm.trans (Prod.mk.inj ‹_›).2.symm
            rw [hlast, hdisk, hstarted, hkept]
            exact ⟨hgrows, Or.inr rfl⟩
          · rw [run_bind, start_barred hstartable] at hthen
            cases hthen
            exact ⟨hgrows, Or.inl ⟨hkept, _, rfl, rfl⟩⟩

end Toolchain

namespace Compilation

open Disk

variable {c : Compilation} {u u' : UnitBuild} {e : Module × List Module} {w w' : Workshop}
  {f : Failure} {q : Path}

/-! ## Taking in a module -/

/-- The folders that a module with these exporters brings to a unit build. -/
def unitFolders (w : Workshop) (m : Module) (exporters : List Module) : List Path :=
  [m.includeDir, m.codebuildDir] ++ exportedFolders w exporters ++ w.grants.forModule m

/-- Why a module cannot be taken into a unit build. -/
def UnitFault (w : Workshop) (e : Module × List Module) (f : Failure) : Prop :=
  LookupFault e.2 e.1 f
  ∨ (isFolder e.1.sourceDir).run w = (.error f, w)
  ∨ (∃ p, w.FolderBelow e.1.sourceDir p ∧ p.TooLong ∧ f = .disk .nameTooLong p)
  ∨ w.sources e.1.sourceDir ".s" ≠ [] ∧ f = .toolchain (.assemblyInUnit e.1.name)

/-- What a unit build holds with a module more. -/
def UnitBuild.with (u : UnitBuild) (w : Workshop) (m : Module) (exporters : List Module) :
    UnitBuild where
  includes := IncludeTable.appendNew (IncludeTable.appendNew (IncludeTable.appendNew u.includes
    [m.includeDir, m.codebuildDir]) (exportedFolders w exporters)) (w.grants.forModule m)
  sources := u.sources ++ w.sources m.sourceDir ".cpp"

theorem UnitBuild.add_run (u : UnitBuild) (e : Module × List Module) (w : Workshop) :
    (w.sources e.1.sourceDir ".s" = [] ∧ ∃ exporters,
        Capability.exportersFor e.2 e.1 = .ok exporters
          ∧ (dependencyFolders e.1 e.2).run w = (.ok (exportedFolders w exporters), w)
          ∧ (u.add e).run w = (.ok (u.with w e.1 exporters), w))
      ∨ ∃ f, UnitFault w e f ∧ (u.add e).run w = (.error f, w) := by
  obtain ⟨m, others⟩ := e
  unfold UnitBuild.add
  dsimp only
  rw [run_bind]
  rcases dependencyFolders_run m others w with ⟨exporters, hexporters, hrun⟩ | ⟨f, hfault, hrun⟩
  · rw [hrun]
    dsimp only
    rw [run_bind, run_get]
    dsimp only
    rw [run_bind]
    rcases isFolder_run m.sourceDir w with hfolder | ⟨-, hfolder⟩
    · -- a module without a source folder takes part with its folders alone
      have hsources : (w.hasFolder m.sourceDir = false → w.sources m.sourceDir ".cpp" = []
          ∧ w.sources m.sourceDir ".s" = []) := by
        intro hno
        simp [Workshop.sources, hno]
      rw [hfolder]
      cases hthere : w.hasFolder m.sourceDir with
      | false =>
          refine Or.inl ⟨(hsources hthere).2, exporters, hexporters, rfl, ?_⟩
          rw [UnitBuild.with, (hsources hthere).1, List.append_nil]
          rfl
      | true =>
          simp only [Bool.not_true, Bool.false_eq_true, if_false]
          rw [run_bind]
          rcases sourcesBelow_run hthere ".cpp" with ⟨hopens, hcpp⟩ | ⟨p, hbelow, hlong, hcpp⟩
          · rw [hcpp]
            dsimp only
            rw [run_bind]
            rcases sourcesBelow_run hthere ".s" with ⟨-, hs⟩ | ⟨p, hbelow, hlong, -⟩
            · rw [hs]
              dsimp only
              cases hassembly : w.sources m.sourceDir ".s" with
              | nil => exact Or.inl ⟨rfl, exporters, hexporters, rfl, rfl⟩
              | cons p ps =>
                  refine Or.inr ⟨_, Or.inr (Or.inr (Or.inr ⟨?_, rfl⟩)), rfl⟩
                  rw [hassembly]
                  exact List.cons_ne_nil p ps
            · exact (hopens p hbelow hlong).elim
          · rw [hcpp]
            exact Or.inr ⟨_, Or.inr (Or.inr (Or.inl ⟨p, hbelow, hlong, rfl⟩)), rfl⟩
    · rw [hfolder]
      exact Or.inr ⟨_, Or.inr (Or.inl hfolder), rfl⟩
  · rw [hrun]
    exact Or.inr ⟨f, Or.inl hfault, rfl⟩

/-! ## Taking in all modules -/

/-- What is collected from modules with the others of each. -/
structure Collects (w : Workshop) (entries : List (Module × List Module)) (u u' : UnitBuild) :
    Prop where
  mem_includes : ∀ q, q ∈ u'.includes ↔ q ∈ u.includes ∨ ∃ e ∈ entries, ∃ exporters,
    Capability.exportersFor e.2 e.1 = .ok exporters ∧ q ∈ unitFolders w e.1 exporters
  nodup : u.includes.Nodup → u'.includes.Nodup
  sources : u'.sources = u.sources ++ entries.flatMap fun e => w.sources e.1.sourceDir ".cpp"
  resolved : ∀ e ∈ entries, ∃ dirs, (dependencyFolders e.1 e.2).run w = (.ok dirs, w)
  no_assembly : ∀ e ∈ entries, w.sources e.1.sourceDir ".s" = []

theorem mem_with_includes {m : Module} {exporters : List Module} :
    q ∈ (u.with w m exporters).includes ↔ q ∈ u.includes ∨ q ∈ unitFolders w m exporters := by
  rw [UnitBuild.with, IncludeTable.mem_appendNew, IncludeTable.mem_appendNew,
    IncludeTable.mem_appendNew, unitFolders, List.mem_append, List.mem_append]
  simp only [or_assoc]

theorem Collects.cons {entries : List (Module × List Module)} {exporters : List Module}
    (hexporters : Capability.exportersFor e.2 e.1 = .ok exporters)
    (hdirs : ∃ dirs, (dependencyFolders e.1 e.2).run w = (.ok dirs, w))
    (hassembly : w.sources e.1.sourceDir ".s" = [])
    (h : Collects w entries (u.with w e.1 exporters) u') : Collects w (e :: entries) u u' where
  mem_includes q := by
    rw [h.mem_includes, mem_with_includes, or_assoc]
    simp only [List.mem_cons, exists_eq_or_imp, hexporters, Except.ok.injEq, exists_eq_left']
  nodup hu := h.nodup (IncludeTable.nodup_appendNew
    (IncludeTable.nodup_appendNew (IncludeTable.nodup_appendNew hu)))
  sources := by
    rw [h.sources, UnitBuild.with, List.append_assoc, List.flatMap_cons]
  resolved := List.forall_mem_cons.mpr ⟨hdirs, h.resolved⟩
  no_assembly := List.forall_mem_cons.mpr ⟨hassembly, h.no_assembly⟩

theorem foldlM_add_run (w : Workshop) : ∀ (entries : List (Module × List Module)) (u : UnitBuild),
    (∃ u', Collects w entries u u' ∧ (entries.foldlM UnitBuild.add u).run w = (.ok u', w))
      ∨ ∃ e ∈ entries, ∃ f, UnitFault w e f
        ∧ (entries.foldlM UnitBuild.add u).run w = (.error f, w)
  | [], u => Or.inl ⟨u, ⟨by simp, id, by simp, by simp, by simp⟩, rfl⟩
  | e :: entries, u => by
      rw [List.foldlM_cons, run_bind]
      rcases UnitBuild.add_run u e w with
        ⟨hassembly, exporters, hexporters, hdirs, hadd⟩ | ⟨f, hfault, hadd⟩
      · rw [hadd]
        rcases foldlM_add_run w entries (u.with w e.1 exporters) with
          ⟨u', hcollects, hrun⟩ | ⟨e', he', f, hfault, hrun⟩
        · exact Or.inl ⟨u', hcollects.cons hexporters ⟨_, hdirs⟩ hassembly, hrun⟩
        · exact Or.inr ⟨e', List.mem_cons_of_mem _ he', f, hfault, hrun⟩
      · rw [hadd]
        exact Or.inr ⟨e, List.mem_cons_self .., f, hfault, rfl⟩

/-- The unit of all modules. -/
def UnitOf (c : Compilation) (w : Workshop) (u : UnitBuild) : Prop :=
  Collects w (Capability.withOthers c.modules) ⟨[c.toolchain.includeDir], []⟩ u

namespace UnitOf

variable (h : c.UnitOf w u)

include h

theorem mem_includes : q ∈ u.includes ↔ q = c.toolchain.includeDir
    ∨ ∃ e ∈ Capability.withOthers c.modules, ∃ exporters,
      Capability.exportersFor e.2 e.1 = .ok exporters ∧ q ∈ unitFolders w e.1 exporters := by
  rw [Collects.mem_includes h, List.mem_singleton]

theorem nodup_includes : u.includes.Nodup := h.nodup (List.nodup_singleton _)

theorem sources_eq : u.sources = c.modules.flatMap fun m => w.sources m.sourceDir ".cpp" := by
  rw [Collects.sources h, List.nil_append]
  conv => rhs; rw [← Capability.map_fst_withOthers c.modules, List.flatMap_map]

/-- The include folders that each module has of its own could be looked up. -/
theorem includeFolders_run (he : e ∈ Capability.withOthers c.modules) : ∃ exporters,
    Capability.exportersFor e.2 e.1 = .ok exporters
      ∧ (c.includeFolders e.1 e.2).run w = (.ok (c.foldersOf w e.1 exporters), w) := by
  obtain ⟨dirs, hfound⟩ := h.resolved e he
  exact includeFolders_of_dependencyFolders c hfound

theorem no_assembly {m : Module} (hm : m ∈ c.modules) : w.sources m.sourceDir ".s" = [] := by
  obtain ⟨e, he, rfl⟩ := Capability.exists_withOthers hm
  exact Collects.no_assembly h e he

end UnitOf

/-! ## One file, one process -/

/-- The file that a unit build is written to. -/
def unitSource (output : Path) : Path := output.child unitName

/-- What the compiler is started with. -/
def unitCall (c : Compilation) (output : Path) (folders : List Path) : List String :=
  c.toolchain.compiler.text :: (Toolchain.expandFlags Toolchain.compilerFlags
    ++ Toolchain.Job.arguments
      ⟨unitSource output, (unitSource output).withSuffix ".o", c.flags, folders⟩)

/-- The compiler was started once, on a file with the text of the unit. -/
def UnitStarted (c : Compilation) (output : Path) (u : UnitBuild) (w w' : Workshop) : Prop :=
  w'.started = w.started ++ [c.unitCall output u.includes]
    ∧ ∃ place, w'.disk.follow w.here (unitSource output) = .ok place
      ∧ w'.disk.get? place = some (.file u.text.toUTF8)

theorem writeUnit_run {output : Path} {r : Except Failure (List Path)}
    (h : (do
      writeText (unitSource output) u.text
      c.toolchain.compile
        ⟨unitSource output, (unitSource output).withSuffix ".o", c.flags, u.includes⟩
      return [(unitSource output).withSuffix ".o"] : Work (List Path)).run w = (r, w')) :
    (w'.started = w.started ∧ ∃ f, r = .error f ∧ f.isOfFiles)
      ∨ c.UnitStarted output u w w' := by
  rw [run_bind] at h
  cases hwrite : (writeText (unitSource output) u.text).run w with
  | mk result w₁ =>
      rw [hwrite] at h
      cases result with
      | error f =>
          cases h
          rw [change_error hwrite]
          exact Or.inl ⟨rfl, f, rfl, (failing_writeText _ _).error hwrite f rfl⟩
      | ok _ =>
          obtain ⟨-, place, hfollow, hne, rfl⟩ := write_ok.mp hwrite
          -- the compile step may still make folders, but it leaves the file as written
          dsimp only at h
          rw [run_bind] at h
          have hfile := (Disk.get?_put_place _ place (.file u.text.toUTF8) hne).trans (if_pos rfl)
          have hleads := follow_of_keepsFolders (keepsFolders_put (.file u.text.toUTF8) hne) hfollow
          cases hcompile : (c.toolchain.compile ⟨unitSource output,
              (unitSource output).withSuffix ".o", c.flags, u.includes⟩).run
              (w.onDisk (w.disk.put place (.file u.text.toUTF8))) with
          | mk result w₂ =>
              rw [hcompile] at h
              obtain ⟨hgrows, hstarted⟩ := Toolchain.build_run hcompile
              have hlast : w' = w₂ ∧ ∀ f, result = .error f → r = .error f := by
                cases result with
                | ok _ =>
                    cases h
                    exact ⟨rfl, by rintro f ⟨⟩⟩
                | error f =>
                    cases h
                    exact ⟨rfl, fun _ h => by cases h; rfl⟩
              obtain ⟨rfl, hr⟩ := hlast
              refine hstarted.imp (fun ⟨hsame, f, hf, hfiles⟩ => ⟨hsame, f, hr f hf, hfiles⟩)
                fun hcall => ⟨hcall, place, ?_, hgrows.get?_some hfile⟩
              exact follow_of_keepsFolders hgrows.keepsFolders hleads

/-- A unit build looks at every module and fails there, or it writes the unit of all modules
and starts the compiler on it, unless the file tree is in the way. -/
theorem compileUnit_run {output : Path} {r : Except Failure (List Path)}
    (h : (c.compileUnit output).run w = (r, w')) :
    (∃ e ∈ Capability.withOthers c.modules, ∃ f, UnitFault w e f ∧ r = .error f ∧ w' = w)
      ∨ ∃ u, c.UnitOf w u
        ∧ ((w'.started = w.started ∧ ∃ f, r = .error f ∧ f.isOfFiles)
          ∨ c.UnitStarted output u w w') := by
  unfold compileUnit at h
  rw [run_bind] at h
  rcases foldlM_add_run w (Capability.withOthers c.modules) ⟨[c.toolchain.includeDir], []⟩ with
    ⟨u, hunit, hrun⟩ | ⟨e, he, f, hfault, hrun⟩
  · rw [unitBuild, hrun] at h
    refine Or.inr ⟨u, hunit, ?_⟩
    dsimp only at h
    rw [run_bind] at h
    cases hfolders : (makeFolders output).run w with
    | mk result w₁ =>
        rw [hfolders] at h
        cases result with
        | error f =>
            cases h
            have hstays := (growing_makeFoldersFrom _ _).error hfolders
            have hfiles := (failing_makeFolders _).error hfolders f rfl
            exact Or.inl ⟨OnFiles.started hstays.1, f, rfl, hfiles⟩
        | ok _ =>
            have hgrown := (growing_makeFoldersFrom _ _).ok hfolders
            rw [UnitStarted, ← OnFiles.started hgrown.1, ← hgrown.here]
            exact writeUnit_run h
  · rw [unitBuild, hrun] at h
    cases h
    exact Or.inl ⟨e, he, f, hfault, rfl, rfl⟩

end Compilation

end PatchForge
