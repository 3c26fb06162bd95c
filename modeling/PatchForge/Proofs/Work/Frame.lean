import PatchForge.Generation
import PatchForge.Proofs.Work.Files

/-!
# What file work leaves alone

However work on files ends, it changes the file tree and nothing else
(the contract `onFiles`): what was said, which processes were started and
what was granted stay. So a part of the workshop that does not look at
the file tree is kept (`keeping_of_onFiles`).
-/

namespace PatchForge

namespace Work

variable {α γ : Type} {x : Work α}

/-- Nothing but the file tree changes. -/
def OnFiles (w w' : Workshop) : Prop := w' = w.onDisk w'.disk

theorem OnFiles.refl (w : Workshop) : OnFiles w w := rfl

theorem OnFiles.trans {w₁ w₂ w₃ : Workshop} (h : OnFiles w₁ w₂) (h' : OnFiles w₂ w₃) :
    OnFiles w₁ w₃ := by
  rw [OnFiles, h', h]
  rfl

theorem OnFiles.started {w w' : Workshop} (h : OnFiles w w') : w'.started = w.started := by
  rw [h]
  rfl

abbrev onFiles : Contract := .moving OnFiles OnFiles.refl OnFiles.trans

theorem onFiles_files : Contract.Admits onFiles (·.isOfFiles) := fun _ _ w => OnFiles.refl w

theorem onFiles_fail (f : Failure) : Meets onFiles (fail f : Work α) := OnFiles.refl

/-- A part of the workshop that does not look at the file tree. -/
theorem keeping_of_onFiles {π : Workshop → γ} (hπ : ∀ w d, π (w.onDisk d) = π w)
    (hx : Meets onFiles x) : Meets (.keeping π) x := by
  intro w
  have h : (x.run w).2 = w.onDisk (x.run w).2.disk := hx w
  show π (x.run w).2 = π w
  rw [h]
  exact hπ w _

theorem onFiles_change (p : Path) (operation : Disk → Place → Path → Except DiskError Disk) :
    Meets onFiles (change p operation) := by
  intro w
  cases hrun : (change p operation).run w with
  | mk result w' =>
      cases result with
      | ok u =>
          obtain ⟨-, d, -, rfl⟩ := change_ok.mp hrun
          rfl
      | error f => rw [change_error hrun]; rfl

theorem onFiles_makeFolders (p : Path) : Meets onFiles (makeFolders p) :=
  fun w => (growing_makeFoldersFrom _ p w).1

end Work

open Work

/-! ## Staging and rendering -/

section

variable {C : Contract} (hC : C.Admits (·.isOfFiles))

include hC

/-- Staging looks at files, makes folders, and otherwise changes its target. -/
theorem meets_stageFile (source : Path) {target : Path} (hunlink : Meets C (unlink target))
    (hfolders : Meets C (makeFolders target.parent))
    (hwrite : ∀ content, Meets C (Work.write target content)) :
    Meets C (stageFile source target) := by
  refine meets_bind (meets_exists hC target) fun there => meets_when hunlink ?_
  exact meets_bind hfolders fun _ => meets_copyFile hC source hwrite

theorem meets_renderInPlace {file : Path} {render : String → Except RenderFault String}
    (hrender : ∀ f, Meets C (fail (.render f) : Work String))
    (hwrite : ∀ content, Meets C (Work.write file content)) :
    Meets C (renderInPlace file render) := by
  refine meets_bind (meets_readExact hC file) fun text => ?_
  exact meets_bind (meets_ofExcept fun f _ => hrender f) fun output => hwrite _

end

theorem onFiles_stageFile (source target : Path) : Meets onFiles (stageFile source target) :=
  meets_stageFile onFiles_files source (onFiles_change target _) (onFiles_makeFolders _)
    fun _ => onFiles_change target _

theorem onFiles_renderInPlace (file : Path) (render : String → Except RenderFault String) :
    Meets onFiles (renderInPlace file render) :=
  meets_renderInPlace onFiles_files (fun _ => onFiles_fail _) fun _ => onFiles_change file _

end PatchForge
