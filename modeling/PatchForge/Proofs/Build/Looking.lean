import PatchForge.Build
import PatchForge.Proofs.Work.Effects
import PatchForge.Proofs.Work.Questions

/-!
# Phases that only look

A build looks before it writes: checking the plan, finding and loading
the modules and checking them as a set say something and change nothing
else (`looking_check`, `looking_discover`, `looking_load`). Finding them
quietly changes nothing at all, so loading and discovery are gone through
once for any part of the workshop that saying something keeps
(`keeping_discover`).
-/

namespace PatchForge

open Work

/-! ## The plan -/

theorem looking_fail {α : Type} (f : Failure) : Meets looking (fail f : Work α) := fun _ => rfl

theorem looking_files : Contract.Admits looking (·.isOfFiles) := fun _ _ _ => rfl

theorem looking_namesFolder (name : String) : Meets looking (BuildPlan.namesFolder name) :=
  meets_ite (meets_pure false) (meets_isFolder looking_files _)

theorem looking_hasToolchain (plan : BuildPlan) : Meets looking plan.hasToolchain := by
  unfold BuildPlan.hasToolchain
  split
  · exact looking_namesFolder _
  · exact meets_ite (looking_fail _) (meets_pure false)

theorem looking_checkToolchain (plan : BuildPlan) : Meets looking plan.checkToolchain := by
  have houtput : Meets looking (do
      if plan.outputFolder.getD "" = "" then Work.fail (.configuration .noOutput)) :=
    meets_ite (looking_fail _) (meets_pure _)
  refine meets_when (looking_fail _) (meets_bind (looking_hasToolchain plan) fun there => ?_)
  exact meets_when (looking_fail _) houtput

theorem looking_check (plan : BuildPlan) (requiresToolchain : Bool) :
    Meets looking (plan.check requiresToolchain) := by
  have hfolder : Meets looking (do
      if !(← BuildPlan.namesFolder (plan.modulesFolder.getD "")) then
        Work.fail (.configuration (.modulesFolder plan.modulesFolder))) :=
    meets_bind (looking_namesFolder _) fun _ => meets_ite (looking_fail _) (meets_pure _)
  exact meets_ite (meets_bind (looking_checkToolchain plan) fun _ => hfolder) hfolder

namespace BuildPlan

variable {plan : BuildPlan} {name : String} {w w' : Workshop}

theorem namesFolder_true : (namesFolder name).run w = (.ok true, w')
    ↔ (name ≠ "" ∧ w.hasFolder (Path.parse name) = true) ∧ w' = w := by
  unfold namesFolder
  by_cases hname : name = ""
  · rw [if_pos hname]
    refine iff_of_false (fun h => ?_) fun h => h.1.1 hname
    cases h
  · rw [if_neg hname]
    rcases isFolder_run (Path.parse name) w with hrun | ⟨hlong, hrun⟩
    · rw [hrun]
      simp only [Prod.mk.injEq, Except.ok.injEq, ne_eq, hname, not_false_eq_true, true_and]
      exact and_congr_right fun _ => eq_comm
    · rw [hrun, Workshop.hasFolder_of_tooLong hlong]
      simp

/-- A build compiles for one of the regions, with a toolchain in a folder that is there. -/
theorem check_toolchain (h : (plan.check true).run w = (.ok (), w')) :
    (∃ region, plan.region = some region ∧ Toolchain.isRegion region = true)
      ∧ ∃ folder, plan.toolchainFolder = .str folder
        ∧ w.hasFolder (Path.parse folder) = true := by
  obtain ⟨_, _, hcheck, -⟩ := bind_ok.mp h
  unfold checkToolchain at hcheck
  cases hregion : (plan.region.map Toolchain.isRegion).getD false with
  | false =>
      simp only [hregion, Bool.not_false, if_true] at hcheck
      cases hcheck
  | true =>
      simp only [hregion, Bool.not_true, Bool.false_eq_true, if_false] at hcheck
      obtain ⟨there, _, hfolder, hthen⟩ := bind_ok.mp hcheck
      cases there with
      | false => cases hthen
      | true =>
          refine ⟨?_, ?_⟩
          · cases hgiven : plan.region with
            | none =>
                rw [hgiven] at hregion
                cases hregion
            | some region =>
                rw [hgiven] at hregion
                exact ⟨region, rfl, hregion⟩
          · unfold hasToolchain at hfolder
            split at hfolder
            · rename_i folder hgiven
              exact ⟨folder, hgiven, (namesFolder_true.mp hfolder).1.2⟩
            · split at hfolder
              · cases hfolder
              · cases hfolder

end BuildPlan

/-! ## Loading and discovery -/

section

variable {γ : Type} {π : Workshop → γ}

theorem keeping_fail {α : Type} (f : Failure) : Meets (.keeping π) (fail f : Work α) :=
  fun _ => rfl

theorem keeping_parseDeclaration (path : Path) (text : String) :
    Meets (.keeping π) (parseDeclaration path text) := by
  unfold parseDeclaration
  split
  · exact meets_pure _
  · split
    · exact keeping_fail _
    · exact keeping_fail _
    · exact keeping_fail _

theorem keeping_declaredModule (path folder : Path) (v : Json) :
    Meets (.keeping π) (declaredModule path folder v) := by
  unfold declaredModule
  split
  · split
    · exact meets_pure _
    · exact keeping_fail _
    · exact keeping_fail _
  · exact keeping_fail _

theorem keeping_loadModule (folder : Path) : Meets (.keeping π) (loadModule folder) := by
  refine meets_bind (meets_resolve keeping_files folder) fun folder => ?_
  refine meets_bind (meets_isFile keeping_files _) fun there => meets_when (keeping_fail _) ?_
  refine meets_bind (meets_readMarkedText keeping_files _) fun text => ?_
  exact meets_bind (keeping_parseDeclaration _ text) fun v => keeping_declaredModule _ folder v

namespace Discovery

theorem keeping_ignoredNames (folder : Path) : Meets (.keeping π) (ignoredNames folder) := by
  refine meets_bind (meets_isFile keeping_files _) fun there => ?_
  exact meets_ite (meets_bind (meets_readText keeping_files _) fun _ => meets_pure _)
    (meets_pure _)

theorem keeping_keep {property : Path → Work Bool} (h : ∀ p, Meets (.keeping π) (property p)) :
    ∀ paths : List Path, Meets (.keeping π) (keep property paths)
  | [] => meets_pure []
  | p :: paths => by
      exact meets_bind (h p) fun kept =>
        meets_bind (keeping_keep h paths) fun rest => meets_pure _

theorem keeping_readable {α : Type} {x : Work α} (h : Meets (.keeping π) x) :
    Meets (.keeping π) (readable x) := by
  refine meets_bind (keeping_tryCatch (meets_bind h fun _ => meets_pure _) fun f => ?_) fun e => ?_
  · split
    · exact meets_pure _
    · exact meets_ite (meets_pure _) (meets_bind (keeping_fail _) fun _ => meets_pure _)
  · cases e with
    | ok a => exact meets_pure _
    | error r => exact meets_pure _

theorem keeping_linkFiles (folder : Path) : Meets (.keeping π) (linkFiles folder) := by
  refine meets_bind (meets_children keeping_files folder) fun paths => ?_
  refine keeping_keep (fun p => ?_) paths
  exact meets_bind (meets_isFile keeping_files p) fun _ => meets_pure _

variable {verbose : Bool} (hsay : ∀ n, Meets (.keeping π) (sayIf verbose n))

include hsay

theorem keeping_warn (d : Discovery) (text : String) :
    Meets (.keeping π) (d.warn verbose text) :=
  meets_bind (hsay _) fun _ => meets_pure _

theorem keeping_visit (ignored : List String) (d : Discovery) (folder : Path) :
    Meets (.keeping π) (visit ignored verbose d folder) := by
  refine meets_bind (meets_resolve keeping_files folder) fun folder => ?_
  refine meets_ite (meets_pure d) (meets_ite ?_ ?_)
  · exact meets_bind (hsay _) fun _ => meets_pure _
  · refine meets_bind (meets_isFolder keeping_files folder) fun there => meets_ite ?_ ?_
    · exact keeping_warn hsay d _
    · refine meets_bind (hsay _) fun _ => ?_
      exact meets_bind (keeping_loadModule folder) fun _ => meets_pure _

theorem keeping_visitLinks (folder : Path) (ignored : List String) (d : Discovery) (file : Path) :
    Meets (.keeping π) (visitLinks folder ignored verbose d file) := by
  have htargets : Meets (.keeping π) (linkTargets file folder) :=
    meets_bind (meets_readText keeping_files file) fun _ => meets_pure _
  refine meets_bind (keeping_readable htargets) fun targets => ?_
  split
  · exact meets_foldlM d fun folder _ d => keeping_visit hsay ignored d folder
  · exact keeping_warn hsay d _

end Discovery

/-- Finding modules changes nothing that saying something does not change. -/
theorem keeping_discover {verbose : Bool} (hsay : ∀ n, Meets (.keeping π) (sayIf verbose n))
    (folder : Path) : Meets (.keeping π) (discover folder verbose) := by
  refine meets_bind (meets_resolve keeping_files folder) fun folder => ?_
  refine meets_bind (Discovery.keeping_ignoredNames folder) fun ignored => ?_
  refine meets_bind (meets_children keeping_files folder) fun children => ?_
  refine meets_bind (Discovery.keeping_keep (meets_isFolder keeping_files) children)
    fun folders => ?_
  refine meets_bind (meets_foldlM _ fun folder _ d =>
    Discovery.keeping_visit hsay ignored d folder) fun d => ?_
  refine meets_bind (Discovery.keeping_linkFiles folder) fun links => ?_
  exact meets_foldlM d fun file _ d => Discovery.keeping_visitLinks hsay folder ignored d file

end

theorem looking_discover (folder : Path) (verbose : Bool) :
    Meets looking (discover folder verbose) :=
  keeping_discover (meets_sayIf looking_hears verbose) folder

theorem looking_load (plan : BuildPlan) : Meets looking (Build.load plan) := by
  refine meets_bind (meets_say looking_hears _) fun _ => ?_
  refine meets_bind (looking_discover _ true) fun found => ?_
  refine meets_bind (meets_say looking_hears _) fun _ => ?_
  refine meets_bind (meets_ofExcept fun _ _ => looking_fail _) fun _ => ?_
  exact meets_bind (meets_ofExcept fun _ _ => looking_fail _) fun _ => meets_pure _

end PatchForge
