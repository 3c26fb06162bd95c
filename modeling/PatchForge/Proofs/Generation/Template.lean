import PatchForge.Proofs.Generation.Effect
import PatchForge.Proofs.Work.Questions

/-!
# Templates that stay

A template that is there before generation is there whenever it is
needed, as long as no file that generation makes is the template itself.
So no run fails for want of it (`performAll_refused`).

A failure of the file tree names a path, and the question is which ones
can name the template's. Reading it goes well. What is done at a target
that is another file names the target. What is left is making the folders
that lead to a target: one that is refused is refused in the tree that is
left behind (`makeFoldersFrom_refused`), and at the template's path the
only thing to refuse is that something is there already.
-/

namespace PatchForge

open Work Disk

/-- The path leads to a file at the place. -/
structure FileAt (d : Disk) (here : Place) (p : Path) (place : Place) (content : ByteArray) :
    Prop where
  leads : d.follow here p = .ok place
  file : d.get? place = some (.file content)

theorem FileAt.of_hasFile {w : Workshop} {p : Path} (h : w.hasFile p = true) :
    ∃ place content, FileAt w.disk w.here p place content := by
  unfold Workshop.hasFile at h
  rw [Bool.and_eq_true] at h
  split at h
  · rename_i place content hfind
    obtain ⟨hleads, hfile⟩ := find_ok.mp hfind
    exact ⟨place, content, hleads, hfile⟩
  · cases h.2

/-! ## Refusals that name a path -/

namespace Work

variable {α : Type} {w w' : Workshop} {p q : Path} {e : DiskError}

/-- An operation that is refused names its path and leaves all as it was. -/
theorem query_refused {operation : Disk → Place → Path → Except DiskError α}
    (h : (query p operation).run w = (.error (.disk e q), w')) :
    q = p ∧ w' = w ∧ operation w.disk w.here p = .error e := by
  unfold query at h
  cases hn : hasNull p with
  | true =>
      simp only [hn, if_true, run_bind, run_fail] at h
      cases h
  | false =>
      simp only [hn, Bool.false_eq_true, if_false, run_bind, run_get] at h
      cases ho : operation w.disk w.here p with
      | ok a =>
          rw [ho] at h
          cases h
      | error e' =>
          rw [ho] at h
          cases h
          exact ⟨rfl, rfl, rfl⟩

theorem change_refused {operation : Disk → Place → Path → Except DiskError Disk}
    (h : (change p operation).run w = (.error (.disk e q), w')) :
    q = p ∧ w' = w ∧ operation w.disk w.here p = .error e := by
  rcases bind_error.mp h with hquery | ⟨d, w₁, -, hset⟩
  · exact query_refused hquery
  · cases hset

theorem lookUp?_refused (h : (lookUp? p).run w = (.error (.disk e q), w')) :
    q = p ∧ w' = w := by
  unfold lookUp? at h
  cases hn : hasNull p with
  | true =>
      rw [hn] at h
      cases h
  | false =>
      simp only [hn, Bool.false_eq_true, if_false, run_bind, run_get] at h
      split at h
      · cases h
      · cases h
      · cases h
      · cases h
        exact ⟨rfl, rfl⟩

/-! ### Folders that cannot be made -/

/-- In the tree no folder can be made at the path. -/
def Refused (d : Disk) (here : Place) (p : Path) (e : DiskError) : Prop :=
  d.makeFolder here p = .error e ∨ p.TooLong

theorem accept_refused {f : Failure}
    (h : (makeFoldersFrom.accept p f).run w = (.error (.disk e q), w')) :
    w' = w ∧ (f = .disk e q ∨ q = p ∧ p.TooLong) := by
  unfold makeFoldersFrom.accept at h
  split at h
  · rcases isFolder_run p w with hrun | ⟨hlong, hrun⟩
    · rw [run_bind, hrun] at h
      cases hthere : w.hasFolder p with
      | true =>
          rw [hthere] at h
          cases h
      | false =>
          rw [hthere] at h
          cases h
          exact ⟨rfl, Or.inl rfl⟩
    · rw [run_bind, hrun] at h
      cases h
      exact ⟨rfl, Or.inr ⟨rfl, hlong⟩⟩
  · cases h
    exact ⟨rfl, Or.inl rfl⟩

/-- What a refusal of the folder comes to when it is not accepted. -/
theorem refused_of_accept {f : Failure} {w₁ : Workshop}
    (hmake : (makeFolder p).run w = (.error f, w₁))
    (h : (makeFoldersFrom.accept p f).run w₁ = (.error (.disk e q), w')) :
    Refused w'.disk w'.here q e := by
  obtain ⟨rfl, rfl | ⟨rfl, hlong⟩⟩ := accept_refused h
  · obtain ⟨rfl, rfl, hrefused⟩ := change_refused hmake
    exact Or.inl hrefused
  · exact Or.inr hlong

theorem settle_refused (h : (makeFoldersFrom.settle p).run w = (.error (.disk e q), w')) :
    Refused w'.disk w'.here q e := by
  unfold makeFoldersFrom.settle at h
  rw [run_tryCatch] at h
  cases hmake : (makeFolder p).run w with
  | mk result w₁ =>
      rw [hmake] at h
      cases result with
      | ok u => cases h
      | error f => exact refused_of_accept hmake h

/-- Making folders fails at a path where, in the tree that is left, none can be made. -/
theorem makeFoldersFrom_refused : ∀ {fuel : Nat} {p : Path} {w : Workshop},
    (makeFoldersFrom fuel p).run w = (.error (.disk e q), w') → Refused w'.disk w'.here q e
  | 0, p, w, h => settle_refused h
  | fuel + 1, p, w, h => by
      rw [makeFoldersFrom, run_tryCatch] at h
      cases hmake : (makeFolder p).run w with
      | mk result w₁ =>
          rw [hmake] at h
          cases result with
          | ok u => cases h
          | error f =>
              dsimp only at h
              split at h
              · split at h
                · cases h
                  obtain ⟨rfl, rfl, hrefused⟩ := change_refused hmake
                  exact Or.inl hrefused
                · rcases bind_error.mp h with hparent | ⟨_, w₂, -, hsettle⟩
                  · exact makeFoldersFrom_refused hparent
                  · exact settle_refused hsettle
              · exact refused_of_accept hmake h

end Work

section

variable {w w' : Workshop} {template source target : Path} {a : Place} {content : ByteArray}
  {e : DiskError}

/-- Where a file lies there is no other reason than that. -/
theorem FileAt.occupied {d : Disk} {here : Place} (h : FileAt d here template a content)
    (hrefused : Refused d here template e) : e = .occupied := by
  rcases hrefused with hmake | hlong
  · unfold Disk.makeFolder at hmake
    rw [h.leads] at hmake
    simp only [h.file] at hmake
    exact (Except.error.inj hmake).symm
  · exact (not_tooLong_of_follow h.leads hlong).elim

/-- A file stays where it is while the tree touches others. -/
theorem FileAt.stays {here : Place} {d d' : Disk} {files : List Path}
    (h : FileAt d here template a content) (htouches : Touches here files d d')
    (hfiles : ∀ p ∈ files, d'.follow here p ≠ .ok a) : FileAt d' here template a content where
  leads := follow_of_keepsFolders htouches.folders h.leads
  file := (htouches.file_iff hfiles content).mpr h.file

/-! ## Staging at another file -/

/-- Copying is refused before anything is read, or is reading and writing. -/
theorem copyFile_run {result : Except Failure Unit}
    (h : (copyFile source target).run w = (result, w')) :
    w' = w ∧ (result = .error .nullCharacter ∨ result = .error (.sameFile source target))
      ∨ (do let content ← readBytes source; Work.write target content : Work Unit).run w
        = (result, w') := by
  unfold copyFile at h
  split at h
  · cases h
    exact Or.inl ⟨rfl, Or.inl rfl⟩
  · rw [run_bind, run_get] at h
    dsimp only at h
    split at h
    · split at h
      · cases h
        exact Or.inl ⟨rfl, Or.inr rfl⟩
      · exact Or.inr h
    · exact Or.inr h

theorem copyFile_refused (h : FileAt w.disk w.here template a content)
    (hother : template ≠ target)
    (hrun : (copyFile source target).run w = (.error (.disk e template), w')) : False := by
  rcases copyFile_run hrun with ⟨-, hnull | hsame⟩ | hcopy
  · cases hnull
  · cases hsame
  rcases bind_error.mp hcopy with hread | ⟨bytes, w₁, -, hwrite⟩
  · obtain ⟨rfl, -, hrefused⟩ := query_refused hread
    have hthere : w.disk.read w.here template = .ok content :=
      Disk.read_ok.mpr ⟨a, h.leads, h.file⟩
    cases hthere.symm.trans hrefused
  · exact hother (change_refused hwrite).1

/-- A step that touches the target alone leaves the template, if it is not the target in the end. -/
theorem FileAt.step {w₁ : Workshop} (h : FileAt w.disk w.here template a content)
    (hstep : Touched [target] w w₁) (hrest : Touched [target] w₁ w')
    (hapart : w'.disk.follow w.here target ≠ .ok a) :
    FileAt w₁.disk w₁.here template a content ∧ w'.disk.follow w₁.here target ≠ .ok a := by
  rw [hstep.1]
  refine ⟨h.stays hstep.2 fun p hp hf => hapart ?_, hapart⟩
  obtain rfl := List.mem_singleton.mp hp
  exact follow_of_keepsFolders hrest.2.folders hf

/-- Staging never fails for want of the template. -/
theorem stageFile_refused (h : FileAt w.disk w.here template a content)
    (hapart : w'.disk.follow w.here target ≠ .ok a)
    (hrun : (stageFile source target).run w = (.error (.disk e template), w')) :
    e = .occupied := by
  have hmem : target ∈ [target] := List.mem_singleton_self _
  have hcopies : Meets (touching [target]) (copyFile source target) :=
    meets_copyFile touching_files source (touching_write hmem)
  have hmakes : Meets (touching [target]) (makeFolders target.parent) := touching_makeFolders hmem
  have htouched : Touched [target] w w' :=
    (meets_stageFile touching_files source (touching_unlink hmem) hmakes
      (touching_write hmem)).error hrun
  have hother : template ≠ target := by
    rintro rfl
    exact hapart (follow_of_keepsFolders htouched.2.folders h.leads)
  -- What is done when the old file is out of the way.
  have hcopy : ∀ {w : Workshop}, FileAt w.disk w.here template a content →
      w'.disk.follow w.here target ≠ .ok a →
      (do makeFolders target.parent; copyFile source target : Work Unit).run w
        = (.error (.disk e template), w') → e = .occupied := by
    intro w h hapart hrun
    rcases bind_error.mp hrun with hfolders | ⟨_, w₁, hfolders, hcopy⟩
    · have hstep := h.step (hmakes.error hfolders) (Touched.refl w') hapart
      exact hstep.1.occupied (makeFoldersFrom_refused hfolders)
    · have hstep := h.step (hmakes.ok hfolders) (hcopies.error hcopy) hapart
      exact (copyFile_refused hstep.1 hother hcopy).elim
  rcases bind_error.mp hrun with hexists | ⟨there, w₁, hexists, hthen⟩
  · rcases bind_error.mp hexists with hentry | ⟨_, _, -, hpure⟩
    · exact (hother (lookUp?_refused hentry).1).elim
    · cases hpure
  obtain ⟨entry, _, hentry, hpure⟩ := bind_ok.mp hexists
  cases hpure
  cases entry with
  | none =>
      obtain ⟨rfl, -⟩ := lookUp?_none hentry
      exact hcopy h hapart hthen
  | some old =>
      obtain ⟨rfl, -⟩ := lookUp?_some hentry
      rcases bind_error.mp hthen with hunlink | ⟨_, w₂, hunlink, hrest⟩
      · exact (hother (change_refused hunlink).1).elim
      · have hafter : Touched [target] w₂ w' :=
          (meets_bind hmakes fun _ => hcopies).error hrest
        obtain ⟨h, hapart⟩ := h.step ((touching_unlink hmem).ok hunlink) hafter hapart
        exact hcopy h hapart hrest

theorem renderInPlace_refused {render : String → Except RenderFault String}
    (hother : template ≠ target)
    (hrun : (renderInPlace target render).run w = (.error (.disk e template), w')) : False := by
  rcases bind_error.mp hrun with hread | ⟨text, w₁, -, hthen⟩
  · rcases bind_error.mp hread with hbytes | ⟨bytes, w₁, -, hdecode⟩
    · exact hother (query_refused hbytes).1
    · cases hd : Text.decodeUtf8 bytes with
      | ok text =>
          rw [hd] at hdecode
          cases hdecode
      | error fault =>
          rw [hd] at hdecode
          cases hdecode
  · rcases bind_error.mp hthen with hrender | ⟨output, w₂, -, hwrite⟩
    · cases hr : render text with
      | ok output =>
          rw [hr] at hrender
          cases hrender
      | error fault =>
          rw [hr] at hrender
          cases hrender
    · exact hother (change_refused hwrite).1

theorem Staging.perform_refused {j : Staging} (h : FileAt w.disk w.here template a content)
    (hapart : w'.disk.follow w.here j.target ≠ .ok a)
    (hrun : j.perform.run w = (.error (.disk e template), w')) : e = .occupied := by
  rcases perform_staged hrun with ⟨f, hf, hstage⟩ | ⟨w₁, b, c, bytes, -, hcopied, hrender⟩
  · cases hf
    exact stageFile_refused h hapart hstage
  · refine (renderInPlace_refused ?_ hrender).elim
    rintro rfl
    have htouched := (touching_perform j).error hrun
    exact hapart (follow_of_keepsFolders htouched.2.folders h.leads)

/-! ## Whole runs -/

/-- A template that was there before and is none of the files that were begun is no reason to
fail, but for a folder that was to be made in its place. -/
theorem performAll_refused {acts : List Act} (h : FileAt w.disk w.here template a content)
    (hstop : .stop (.disk e template) ∉ acts)
    (hapart : ∀ j ∈ begun acts w, ¬ SameFile w'.disk w.here template j.target)
    (hrun : (performAll acts).run w = (.error (.disk e template), w')) : e = .occupied := by
  obtain ⟨before, act, after, w₁, rfl, hbefore, hact, hbegun⟩ := performAll_error hrun
  rw [hbegun] at hapart
  obtain ⟨hhere, -, -, l, hl, hmade⟩ := performAll_ok hbefore
  have hkeep : KeepsFolders w₁.disk w'.disk := (Meets.error (touching_act act) hact).2.folders
  have hleads : w₁.disk.follow w.here template = .ok a :=
    follow_of_keepsFolders hmade.keepsFolders h.leads
  have hleads' : w'.disk.follow w.here template = .ok a := follow_of_keepsFolders hkeep hleads
  -- So far only other files were made.
  have hothers := hmade.apart hkeep hleads' fun x hx =>
    hapart x.1 (List.mem_append_left _ (mem_stagings hl hx))
  have hthere : FileAt w₁.disk w₁.here template a content := by
    rw [hhere]
    exact ⟨hleads, (hmade.file_iff content hothers).mpr h.file⟩
  cases act with
  | say n => cases hact
  | grant g => cases hact
  | make j =>
      refine j.perform_refused hthere (fun hf => ?_) hact
      rw [hhere] at hf
      exact hapart j (List.mem_append_right _ (List.mem_singleton_self _)) ⟨a, hleads', hf⟩
  | stop f =>
      cases hact
      exact (hstop (List.mem_append_right _ (List.mem_cons_self ..))).elim

end

end PatchForge
