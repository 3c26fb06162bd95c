import PatchForge.Compilation
import PatchForge.Proofs.Capability.Identifiers
import PatchForge.Proofs.Grants.Table
import PatchForge.Proofs.Work.Questions

/-!
# The include folders of a module

The folders that a module's sources are compiled with come from four
sides: the toolchain, the module itself, the modules whose capabilities
it uses and the grants. Asking for them changes nothing. It gives the
list `foldersOf`, or it fails for one of two reasons (`LookupFault`): a
required capability is missing, or the folder of an exporter is at a path
that is too long to be asked about.

All lists are built by appending what is new, so none repeats a folder,
and membership is the union of the sides (`mem_foldersOf`).
-/

namespace PatchForge

namespace Compilation

open Work IncludeTable

variable {c : Compilation} {m : Module} {others exporters : List Module} {w w' : Workshop}
  {q : Path} {dirs : List Path} {f : Failure}

/-! ## What exporters bring -/

/-- The folders of exporters that are there. -/
def exportedFolders (w : Workshop) (exporters : List Module) : List Path :=
  appendNew [] <|
    (exporters.flatMap fun x => [x.includeDir, x.codebuildExportDir]).filter w.hasFolder

theorem mem_exportedFolders :
    q ∈ exportedFolders w exporters ↔ w.hasFolder q = true
      ∧ ∃ x ∈ exporters, q = x.includeDir ∨ q = x.codebuildExportDir := by
  rw [exportedFolders, mem_appendNew, List.mem_filter, List.mem_flatMap, and_comm]
  simp

/-- Why the exporters of a module, or their folders, cannot be looked up. -/
def LookupFault (others : List Module) (m : Module) (f : Failure) : Prop :=
  (∃ missing, Capability.exportersFor others m = .error missing ∧ f = .missingCapability missing)
  ∨ ∃ exporters, Capability.exportersFor others m = .ok exporters ∧ ∃ x ∈ exporters, ∃ p,
      (p = x.includeDir ∨ p = x.codebuildExportDir) ∧ p.TooLong ∧ f = .disk .nameTooLong p

/-- Where a module resolves, only the folder of an exporter that was never loaded is in the
way. -/
theorem LookupFault.unloaded (h : LookupFault others m f)
    (hexporters : Capability.exportersFor others m = .ok exporters) :
    ∃ x ∈ exporters, ¬ x.Loaded ∧ ∃ p, (p = x.includeDir ∨ p = x.codebuildExportDir)
      ∧ p.TooLong ∧ f = .disk .nameTooLong p := by
  rcases h with ⟨missing, hmissing, -⟩ | ⟨found, hfound, x, hx, p, hp, hlong, hf⟩
  · rw [hexporters] at hmissing
    cases hmissing
  · obtain rfl : found = exporters := Except.ok.inj (hfound.symm.trans hexporters)
    refine ⟨x, hx, fun hloaded => ?_, p, hp, hlong, hf⟩
    rcases hp with rfl | rfl
    · exact hloaded.not_tooLong.1 hlong
    · exact hloaded.not_tooLong.2 hlong

theorem LookupFault.tooLong (h : LookupFault others m f)
    (hexporters : Capability.exportersFor others m = .ok exporters) :
    ∃ x ∈ others, ¬ x.Loaded ∧ ∃ p, (p = x.includeDir ∨ p = x.codebuildExportDir)
      ∧ p.TooLong ∧ f = .disk .nameTooLong p := by
  obtain ⟨x, hx, hrest⟩ := h.unloaded hexporters
  exact ⟨x, Capability.exportersFor_subset hexporters hx, hrest⟩

theorem dependencyFolders_run (m : Module) (others : List Module) (w : Workshop) :
    (∃ exporters, Capability.exportersFor others m = .ok exporters
        ∧ (dependencyFolders m others).run w = (.ok (exportedFolders w exporters), w))
      ∨ ∃ f, LookupFault others m f ∧ (dependencyFolders m others).run w = (.error f, w) := by
  cases hexporters : Capability.exportersFor others m with
  | error missing =>
      refine Or.inr ⟨_, Or.inl ⟨missing, hexporters, rfl⟩, ?_⟩
      unfold dependencyFolders
      rw [hexporters]
      rfl
  | ok exporters =>
      have hthen : (dependencyFolders m others).run w = (do
          let found ← (exporters.flatMap fun x =>
            [x.includeDir, x.codebuildExportDir]).filterM isFolder
          return appendNew [] found : Work (List Path)).run w := by
        unfold dependencyFolders
        rw [hexporters]
        rfl
      rw [hthen, run_bind]
      rcases filterM_isFolder_run (exporters.flatMap fun x => [x.includeDir, x.codebuildExportDir])
        w with hrun | ⟨p, hp, hlong, hrun⟩
      · rw [hrun]
        exact Or.inl ⟨exporters, rfl, rfl⟩
      · rw [hrun]
        obtain ⟨x, hx, hpx⟩ := List.mem_flatMap.mp hp
        refine Or.inr ⟨_, Or.inr ⟨exporters, hexporters, x, hx, p, ?_, hlong, rfl⟩, rfl⟩
        simpa using hpx

theorem dependencyFolders_ok (h : (dependencyFolders m others).run w = (.ok dirs, w')) :
    w' = w ∧ ∃ exporters, Capability.exportersFor others m = .ok exporters
      ∧ dirs = exportedFolders w exporters := by
  rcases dependencyFolders_run m others w with ⟨exporters, hexporters, hrun⟩ | ⟨f, -, hrun⟩
  · rw [hrun] at h
    cases h
    exact ⟨rfl, exporters, hexporters, rfl⟩
  · rw [hrun] at h
    cases h

/-! ## All sides together -/

/-- The folders of a module's own that its sources are compiled with. -/
def ownFolders (m : Module) : List Path := [m.includeDir, m.codebuildDir, m.codebuildExportDir]

/-- The include folders of a module with these exporters. -/
def foldersOf (c : Compilation) (w : Workshop) (m : Module) (exporters : List Module) :
    List Path :=
  appendNew (appendNew (appendNew [] (c.toolchain.includeDir :: ownFolders m))
    (exportedFolders w exporters)) (w.grants.forModule m)

theorem mem_foldersOf :
    q ∈ c.foldersOf w m exporters ↔ q = c.toolchain.includeDir ∨ q ∈ ownFolders m
      ∨ q ∈ exportedFolders w exporters ∨ q ∈ w.grants.forModule m := by
  rw [foldersOf, mem_appendNew, mem_appendNew, mem_appendNew, List.mem_cons]
  simp only [List.not_mem_nil, false_or, or_assoc]

theorem nodup_foldersOf : (c.foldersOf w m exporters).Nodup :=
  nodup_appendNew (nodup_appendNew (nodup_appendNew List.nodup_nil))

/-- Only the exporters of a module can be in the way of its include folders. -/
theorem includeFolders_of_dependencyFolders (c : Compilation)
    (h : (dependencyFolders m others).run w = (.ok dirs, w')) :
    ∃ exporters, Capability.exportersFor others m = .ok exporters
      ∧ (c.includeFolders m others).run w = (.ok (c.foldersOf w m exporters), w) := by
  obtain ⟨rfl, exporters, hexporters, rfl⟩ := dependencyFolders_ok h
  refine ⟨exporters, hexporters, ?_⟩
  unfold includeFolders
  dsimp only
  rw [run_bind, h]
  rfl

theorem includeFolders_run (c : Compilation) (m : Module) (others : List Module) (w : Workshop) :
    (∃ exporters, Capability.exportersFor others m = .ok exporters
        ∧ (c.includeFolders m others).run w = (.ok (c.foldersOf w m exporters), w))
      ∨ ∃ f, LookupFault others m f ∧ (c.includeFolders m others).run w = (.error f, w) := by
  rcases dependencyFolders_run m others w with ⟨exporters, -, hrun⟩ | ⟨f, hfault, hrun⟩
  · exact Or.inl (includeFolders_of_dependencyFolders c hrun)
  · refine Or.inr ⟨f, hfault, ?_⟩
    unfold includeFolders
    dsimp only
    rw [run_bind, hrun]

/-! ## Folders by their last names -/

theorem snoc_inj {p q : Path} {a b : String} :
    (⟨p.root, p.names ++ [a]⟩ : Path) = ⟨q.root, q.names ++ [b]⟩ ↔ p = q ∧ a = b := by
  obtain ⟨root, names⟩ := p
  obtain ⟨root', names'⟩ := q
  simp only [Path.mk.injEq, List.append_singleton_inj, and_assoc]

/-- The include folder of a module is known by the module's folder. -/
theorem includeDir_inj {x y : Module} : x.includeDir = y.includeDir ↔ x.folder = y.folder :=
  snoc_inj.trans (and_iff_left rfl)

theorem includeDir_eq_toolchain {x : Module} :
    x.includeDir = c.toolchain.includeDir ↔ x.folder = c.toolchain.folder :=
  snoc_inj.trans (and_iff_left rfl)

theorem includeDir_mem_ownFolders {x : Module} :
    x.includeDir ∈ ownFolders m ↔ x.folder = m.folder := by
  have hcodebuild : x.includeDir ≠ m.codebuildDir := fun h => absurd (snoc_inj.mp h).2 (by decide)
  have hexport : x.includeDir ≠ m.codebuildExportDir :=
    fun h => absurd (snoc_inj.mp h).2 (by decide)
  rw [ownFolders, List.mem_cons, List.mem_cons, List.mem_singleton, includeDir_inj]
  simp only [hcodebuild, hexport, or_false]

theorem includeDir_mem_exportedFolders {x : Module} :
    x.includeDir ∈ exportedFolders w exporters ↔ w.hasFolder x.includeDir = true
      ∧ ∃ y ∈ exporters, x.folder = y.folder := by
  have hexport : ∀ y : Module, x.includeDir ≠ y.codebuildExportDir :=
    fun y h => absurd (snoc_inj.mp h).2 (by decide)
  rw [mem_exportedFolders]
  simp only [includeDir_inj, hexport, or_false]

end Compilation

end PatchForge
