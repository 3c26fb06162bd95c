import PatchForge.Proofs.Generation.Staging
import PatchForge.Proofs.Work.Frame

/-!
# What making files touches

To make a file is to remove an old one, to make the folders that lead to
it and to write it. Whenever that is broken off, the tree has changed at
the file itself and by new folders on the way to it, and nowhere else:
the tree `Touches` the files it was to make. This holds of every single
operation and goes on from there through sequences and caught failures,
as the contract `touching`.

Where a path leads is asked in the tree that comes last. Folders stay, so
that is where the path led at any time before, if it led anywhere.
-/

namespace PatchForge

open Work Disk

/-- A folder at the place leads to the path. -/
def OnTheWay (d : Disk) (here place : Place) (p : Path) : Prop :=
  ∃ q : Path, q.Above p.parent ∧ d.follow here q = .ok place

theorem OnTheWay.mono {d d' : Disk} {here place : Place} {p : Path} (hd : KeepsFolders d d')
    (h : OnTheWay d here place p) : OnTheWay d' here place p := by
  obtain ⟨q, hq, hf⟩ := h
  exact ⟨q, hq, follow_of_keepsFolders hd hf⟩

/-- At the place all is as before, or a folder came up there on the way to one of the files. -/
def LeftAlone (here : Place) (files : List Path) (d d' : Disk) (place : Place) : Prop :=
  d'.get? place = d.get? place
    ∨ d.get? place = none ∧ d'.get? place = some .folder
      ∧ ∃ p ∈ files, OnTheWay d' here place p

/-- From one tree to the other only the files at these paths changed, and folders on the way to
them came up. -/
structure Touches (here : Place) (files : List Path) (d d' : Disk) : Prop where
  folders : KeepsFolders d d'
  elsewhere : ∀ place, (∀ p ∈ files, d'.follow here p ≠ .ok place) →
    LeftAlone here files d d' place

namespace Touches

variable {here : Place} {files files' : List Path} {d d' d'' : Disk}

theorem refl (d : Disk) : Touches here files d d := ⟨KeepsFolders.refl d, fun _ _ => Or.inl rfl⟩

theorem trans (h : Touches here files d d') (h' : Touches here files d' d'') :
    Touches here files d d'' := by
  refine ⟨h.folders.trans h'.folders, fun place hplace => ?_⟩
  have hbefore : ∀ p ∈ files, d'.follow here p ≠ .ok place := fun p hp hf =>
    hplace p hp (follow_of_keepsFolders h'.folders hf)
  rcases h'.elsewhere place hplace with heq' | ⟨hnone', hfolder', hway'⟩
  · rcases h.elsewhere place hbefore with heq | ⟨hnone, hfolder, p, hp, hway⟩
    · exact Or.inl (heq'.trans heq)
    · exact Or.inr ⟨hnone, heq'.trans hfolder, p, hp, hway.mono h'.folders⟩
  · rcases h.elsewhere place hbefore with heq | ⟨-, hfolder, -⟩
    · exact Or.inr ⟨heq ▸ hnone', hfolder', hway'⟩
    · rw [hfolder] at hnone'
      cases hnone'

theorem mono (h : Touches here files d d') (hsub : files ⊆ files') : Touches here files' d d' := by
  refine ⟨h.folders, fun place hplace => ?_⟩
  refine (h.elsewhere place fun p hp => hplace p (hsub hp)).imp_right ?_
  rintro ⟨hnone, hfolder, p, hp, hway⟩
  exact ⟨hnone, hfolder, p, hsub hp, hway⟩

/-- A file elsewhere is neither changed nor removed nor new. -/
theorem file_iff (h : Touches here files d d') {place : Place}
    (hplace : ∀ p ∈ files, d'.follow here p ≠ .ok place) (content : ByteArray) :
    d'.get? place = some (.file content) ↔ d.get? place = some (.file content) := by
  rcases h.elsewhere place hplace with heq | ⟨hnone, hfolder, -⟩
  · rw [heq]
  · simp [hnone, hfolder]

/-- A change at a place that one of the files leads to. -/
theorem of_changed {p : Path} {place : Place} (hp : p ∈ files)
    (hf : d.follow here p = .ok place) (hkeep : KeepsFolders d d')
    (hsame : ∀ other, other ≠ place → d'.get? other = d.get? other) :
    Touches here files d d' := by
  refine ⟨hkeep, fun other hother => Or.inl (hsame other ?_)⟩
  rintro rfl
  exact hother p hp (follow_of_keepsFolders hkeep hf)

end Touches

/-! ## The contract -/

namespace Work

variable {α : Type} {files : List Path} {p : Path}

/-- The tree touches the files, and relative paths keep their meaning. -/
def Touched (files : List Path) (w w' : Workshop) : Prop :=
  w'.here = w.here ∧ Touches w.here files w.disk w'.disk

theorem Touched.refl (w : Workshop) : Touched files w w := ⟨rfl, Touches.refl _⟩

theorem Touched.trans {w₁ w₂ w₃ : Workshop} (h : Touched files w₁ w₂) (h' : Touched files w₂ w₃) :
    Touched files w₁ w₃ := by
  obtain ⟨hhere, htouches⟩ := h
  obtain ⟨hhere', htouches'⟩ := h'
  rw [hhere] at htouches'
  exact ⟨hhere'.trans hhere, htouches.trans htouches'⟩

theorem Touched.mono {files' : List Path} {w w' : Workshop} (h : Touched files w w')
    (hsub : files ⊆ files') : Touched files' w w' := ⟨h.1, h.2.mono hsub⟩

abbrev touching (files : List Path) : Contract :=
  .moving (Touched files) Touched.refl Touched.trans

theorem touching_files : Contract.Admits (touching files) (·.isOfFiles) := moving_admits _

theorem touching_change {operation : Disk → Place → Path → Except DiskError Disk}
    (h : ∀ d d' here, operation d here p = .ok d' → Touches here files d d') :
    Meets (touching files) (change p operation) := by
  intro w
  cases hrun : (change p operation).run w with
  | mk result w' =>
      cases result with
      | ok u =>
          obtain ⟨-, d, hd, rfl⟩ := change_ok.mp hrun
          exact ⟨rfl, h _ _ _ hd⟩
      | error f =>
          rw [change_error hrun]
          exact Touched.refl w

theorem touching_unlink (hp : p ∈ files) : Meets (touching files) (unlink p) := by
  refine touching_change fun d d' here hd => ?_
  obtain ⟨place, content, hf, hg, rfl⟩ := Disk.unlink_ok.mp hd
  have hne : d.get? place ≠ some .folder := by simp [hg]
  refine Touches.of_changed hp hf (keepsFolders_erase hne) fun other ho => ?_
  rw [get?_erase d other hne, if_neg ho]

theorem touching_write (hp : p ∈ files) (content : ByteArray) :
    Meets (touching files) (Work.write p content) := by
  refine touching_change fun d d' here hd => ?_
  obtain ⟨place, hf, hne, rfl⟩ := Disk.write_ok.mp hd
  refine Touches.of_changed hp hf (keepsFolders_put _ hne) fun other ho => ?_
  rw [get?_put_place d other _ hne, if_neg ho]

theorem touching_makeFolder (hp : p ∈ files) {q : Path} (hq : q.Above p.parent) :
    Meets (touching files) (makeFolder q) := by
  refine touching_change fun d d' here hd => ?_
  obtain ⟨place, hf, hg, rfl⟩ := Disk.makeFolder_ok.mp hd
  have hne : d.get? place ≠ some .folder := by simp [hg]
  have hkeep := keepsFolders_put .folder hne
  refine ⟨hkeep, fun other _ => ?_⟩
  rw [LeftAlone, get?_put_place d other .folder hne]
  by_cases ho : other = place
  · subst ho
    exact Or.inr ⟨hg, if_pos rfl, p, hp, q, hq, follow_of_keepsFolders hkeep hf⟩
  · exact Or.inl (if_neg ho)

theorem touching_makeFolders (hp : p ∈ files) : Meets (touching files) (makeFolders p.parent) :=
  moving_makeFoldersFrom _ fun _ hq => touching_makeFolder hp hq

end Work

/-- Making a file, to the end or not, touches that file alone. -/
theorem touching_perform (j : Staging) : Meets (touching [j.target]) j.perform := by
  have hmem : j.target ∈ [j.target] := List.mem_singleton_self _
  have hgrant : Meets (touching [j.target])
      (modify fun w => { w with grants := j.grants w.grants }) :=
    fun w => ⟨rfl, Touches.refl _⟩
  refine meets_bind (meets_stageFile touching_files _ (touching_unlink hmem)
    (touching_makeFolders hmem) (touching_write hmem)) fun _ => meets_bind hgrant fun _ => ?_
  exact meets_renderInPlace touching_files (fun _ => moving_fail _) (touching_write hmem)

end PatchForge
