import PatchForge.Capability.Registry
import PatchForge.Proofs.Generation.Template
import PatchForge.Validation

/-!
# What becomes of templates

Generation reads templates and is not meant to change them. Nothing in it
looks at whether a destination is a template, though, and a validation
does not either. So a template stays as it is as long as no destination
of the run leads to it, and that is all that can be said in general:

- At a template that is also a destination lies, in the end, the last
  file that was completed there (`MadeAll.lies`), so that another
  module's template may hold a rendering, from then on and for this
  module's own file.
- A template that is its own destination is lost. Staging takes away the
  old file before it copies, and what it takes away is the template
  (`Staging.perform_lost`).

The run that breaks off is cut into the files that were completed, which
are a chain, and the file at hand (`generateAll_templates`).
-/

namespace PatchForge

open Work Disk

variable {w w' : Workshop} {template : Path} {a : Place} {content : ByteArray}

/-! ## Templates that a chain comes across -/

/-- Where a file lay there lies one after the chain: the last that was made there, or itself. -/
theorem MadeAll.lies {here : Place} {d d' : Disk} {l : List (Staging × Site)}
    (h : MadeAll here d l d') (hfile : d.get? a = some (.file content)) :
    d'.get? a = some ((PatchForge.lastMade l a).getD (.file content)) := by
  cases hl : PatchForge.lastMade l a with
  | none => exact (h.file_iff content (lastMade_eq_none.mp hl)).mpr hfile
  | some entry => exact h.lastMade hl

theorem lastMade_getD_file (l : List (Staging × Site)) (a : Place) (content : ByteArray) :
    ∃ bytes, (lastMade l a).getD (.file content) = .file bytes := by
  cases hl : lastMade l a with
  | none => exact ⟨content, rfl⟩
  | some entry =>
      obtain ⟨bytes, rfl⟩ := lastMade_file hl
      exact ⟨bytes, rfl⟩

/-- A file that was made is none whose template was at its own place. -/
theorem MadeAll.not_own {here : Place} {d d' : Disk} {l : List (Staging × Site)}
    (h : MadeAll here d l d') {e : Staging × Site} (he : e ∈ l)
    (hsource : d.follow here e.1.source = .ok a) : d.follow here e.1.target ≠ .ok a := by
  intro htarget
  obtain ⟨dᵢ, hready, -⟩ := h.leads he
  have hs := Except.ok.inj
    ((h.source_leads he).symm.trans (follow_of_keepsFolders h.keepsFolders hsource))
  have ht := Except.ok.inj
    ((h.target_leads he).symm.trans (follow_of_keepsFolders h.keepsFolders htarget))
  exact hready.apart (hs.trans ht.symm)

/-! ## A template that is its own destination -/

/-- Copying that fails changes nothing. -/
theorem copyFile_error {source target : Path} {f : Failure}
    (h : (copyFile source target).run w = (.error f, w')) : w' = w := by
  rcases copyFile_run h with ⟨hw, -⟩ | hcopy
  · exact hw
  · rcases bind_error.mp hcopy with hread | ⟨bytes, w₁, hread, hwrite⟩
    · have hreads : Meets (.keeping fun w => w) (readBytes source) :=
        meets_readBytes keeping_files source
      exact hreads.error hread
    · obtain ⟨-, rfl, -⟩ := readBytes_ok.mp hread
      exact change_error hwrite

/-- Staging that fails has still taken away the file that lay at the target. -/
theorem stageFile_lost {source target : Path} {f : Failure}
    (htarget : w.disk.follow w.here target = .ok a)
    (hfile : w.disk.get? a = some (.file content)) (hnull : hasNull target = false)
    (h : (stageFile source target).run w = (.error f, w')) :
    ∀ bytes, w'.disk.get? a ≠ some (.file bytes) := by
  have hunlink : (Work.unlink target).run w = (.ok (), w.onDisk (w.disk.erase a)) :=
    Work.unlink_ok.mpr ⟨hnull, a, content, htarget, hfile, rfl⟩
  have hcleared : (do makeFolders target.parent; copyFile source target : Work Unit).run
      (w.onDisk (w.disk.erase a)) = (.error f, w') := by
    rw [stageFile, run_bind, exists?_of_follow hnull htarget, hfile] at h
    simpa only [Option.isSome_some, if_true, run_bind, hunlink] using h
  have hgone : (w.disk.erase a).get? a = none := by
    rw [get?_erase w.disk a (by simp [hfile]), if_pos rfl]
  -- What fails afterwards has made folders at most.
  have hgrown : Grown (w.onDisk (w.disk.erase a)) w' := by
    have hmakes : Meets growing (makeFolders target.parent) := growing_makeFoldersFrom _ _
    rcases bind_error.mp hcleared with hfolders | ⟨_, w₁, hfolders, hcopy⟩
    · exact hmakes.error hfolders
    · rw [copyFile_error hcopy]
      exact hmakes.ok hfolders
  intro bytes hbytes
  have hbefore := hgrown.2.file hbytes
  rw [Workshop.onDisk_disk, hgone] at hbefore
  cases hbefore

/-- Staging a template at its own place fails, and the template is gone. -/
theorem Staging.perform_lost {j : Staging} {result : Except Failure Unit}
    (h : FileAt w.disk w.here j.source a content)
    (htarget : w.disk.follow w.here j.target = .ok a) (hnull : hasNull j.target = false)
    (hrun : j.perform.run w = (result, w')) :
    (∃ f, result = .error f) ∧ ∀ bytes, w'.disk.get? a ≠ some (.file bytes) := by
  rcases perform_staged hrun with ⟨f, rfl, hstage⟩ | ⟨w₁, b, c, bytes, -, hcopied, -⟩
  · exact ⟨⟨f, rfl⟩, stageFile_lost htarget h.file hnull hstage⟩
  · have hkeep : KeepsFolders w.disk w₁.disk := hcopied.changed.keepsFolders hcopied.free
    have hb := Except.ok.inj
      (hcopied.target_leads.symm.trans (follow_of_keepsFolders hkeep htarget))
    have hc := Except.ok.inj
      (hcopied.source_leads.symm.trans (follow_of_keepsFolders hkeep h.leads))
    exact (hcopied.apart (hc.trans hb.symm)).elim

/-! ## Whole runs -/

/-- However a run ends, it is a chain of files that were completed, followed by at most one that
was begun and not completed. -/
theorem performAll_begun {acts : List Act} {result : Except Failure Unit}
    (h : (performAll acts).run w = (result, w')) :
    ∃ l rest w₁, begun acts w = l.map Prod.fst ++ rest ∧ rest.length ≤ 1
      ∧ (result.isOk = true → rest = []) ∧ MadeAll w.here w.disk l w₁.disk ∧ w₁.here = w.here
      ∧ Touches w.here (rest.map (·.target)) w₁.disk w'.disk
      ∧ ∀ i ∈ rest, ∃ f, result = .error f ∧ i.perform.run w₁ = (.error f, w') := by
  cases result with
  | ok u =>
      obtain ⟨-, -, -, l, hl, hmade⟩ := performAll_ok h
      refine ⟨l, [], w', ?_, Nat.zero_le _, fun _ => rfl, hmade, ?_, Touches.refl _, nofun⟩
      · rw [begun_of_ok h, hl, List.append_nil]
      · exact (performAll_ok h).1
  | error f =>
      obtain ⟨before, act, after, w₁, -, hbefore, hact, hbegun⟩ := performAll_error h
      obtain ⟨hhere, -, -, l, hl, hmade⟩ := performAll_ok hbefore
      have htouched : Touched act.files w₁ w' := (touching_act act).error hact
      rw [Touched, hhere] at htouched
      refine ⟨l, act.staging?.toList, w₁, by rw [hbegun, hl], ?_, nofun, hmade, hhere,
        htouched.2, fun i hi => ⟨f, rfl, ?_⟩⟩
      · cases act.staging? <;> simp
      · cases act with
        | make j =>
            cases List.mem_singleton.mp hi
            exact hact
        | say n => cases hi
        | grant g => cases hi
        | stop f => cases hi

/-- Files that a template is apart from do not lead to its place. -/
theorem not_leads_of_apart {here : Place} {d : Disk} {js : List Staging}
    (hleads : d.follow here template = .ok a)
    (hapart : ∀ j ∈ js, ¬ SameFile d here template j.target) :
    ∀ p ∈ js.map (·.target), d.follow here p ≠ .ok a := by
  intro p hp hf
  obtain ⟨j, hj, rfl⟩ := List.mem_map.mp hp
  exact hapart j hj ⟨a, hleads, hf⟩

theorem MadeAll.lies_apart {here : Place} {d d₁ d' : Disk} {l : List (Staging × Site)}
    {rest : List Staging} (hmade : MadeAll here d l d₁)
    (htouches : Touches here (rest.map (·.target)) d₁ d') (hfile : FileAt d here template a content)
    (hapart : ∀ j ∈ rest, ¬ SameFile d' here template j.target) :
    d'.get? a = some ((PatchForge.lastMade l a).getD (.file content)) := by
  have hleads := follow_of_keepsFolders (hmade.keepsFolders.trans htouches.folders) hfile.leads
  obtain ⟨bytes, hbytes⟩ := lastMade_getD_file l a content
  have hthere := hmade.lies hfile.file
  rw [hbytes] at hthere ⊢
  exact (htouches.file_iff (not_leads_of_apart hleads hapart) bytes).mpr hthere

/-- A template that is its own destination is still there when its turn comes, and then lost. -/
theorem MadeAll.lost {w₁ : Workshop} {l : List (Staging × Site)} {i : Staging}
    {result : Except Failure Unit} (hmade : MadeAll w.here w.disk l w₁.disk)
    (hhere : w₁.here = w.here) (hfile : FileAt w.disk w.here i.source a content)
    (htarget : w.disk.follow w.here i.target = .ok a) (hnull : hasNull i.target = false)
    (hrun : i.perform.run w₁ = (result, w')) : ∀ bytes, w'.disk.get? a ≠ some (.file bytes) := by
  obtain ⟨bytes, hbytes⟩ := lastMade_getD_file l a content
  have hthere := hmade.lies hfile.file
  rw [hbytes] at hthere
  have hkeep := hmade.keepsFolders
  rw [← hhere] at hfile htarget
  have hstill : FileAt w₁.disk w₁.here i.source a bytes :=
    ⟨follow_of_keepsFolders hkeep hfile.leads, hthere⟩
  exact (i.perform_lost hstill (follow_of_keepsFolders hkeep htarget) hnull hrun).2

section

variable {modules : List Module} {verbose : Bool} {js : List Staging}
  {result : Except Failure Generation}

/-- Generation ends as its acts do. -/
theorem generateAll_performs (h : (generateAll modules verbose).run w = (result, w')) :
    ∃ ended, (performAll (generationActs modules verbose)).run w = (ended, w')
      ∧ (∀ g, result = .ok g → ended.isOk = true)
      ∧ ∀ f, ended = .error f → result = .error f := by
  cases result with
  | ok g => exact ⟨.ok (), (generateAll_ok.mp h).1, fun _ _ => rfl, nofun⟩
  | error f =>
      refine ⟨.error f, generateAll_error.mp h, nofun, ?_⟩
      rintro _ ⟨⟩
      rfl

/-- **Templates stay unless they are destinations.** Let `js` be the files that a run of generation
begins. However it ends, a template to which none of their targets leads is there with the same
bytes. At any template lies, in the end, the last file that was completed at its place, or the
template itself if there is none, unless the one file that was begun and not completed leads
there. And a template that is its own target is gone, and generation has failed. -/
theorem generateAll_templates (h : (generateAll modules verbose).run w = (result, w'))
    (hjs : begun (generationActs modules verbose) w = js) :
    (∀ template a content, FileAt w.disk w.here template a content →
      (∀ j ∈ js, ¬ SameFile w'.disk w.here template j.target) →
        FileAt w'.disk w.here template a content)
    ∧ (∃ l rest d, js = l.map Prod.fst ++ rest ∧ rest.length ≤ 1
      ∧ (∀ g, result = .ok g → rest = []) ∧ MadeAll w.here w.disk l d
      ∧ ∀ template a content, FileAt w.disk w.here template a content →
        (∀ j ∈ rest, ¬ SameFile w'.disk w.here template j.target) →
          w'.disk.get? a = some ((lastMade l a).getD (.file content)))
    ∧ ∀ i ∈ js, hasNull i.target = false →
      ∀ a content, FileAt w.disk w.here i.source a content →
        w.disk.follow w.here i.target = .ok a →
          (∃ f, result = .error f) ∧ ∀ bytes, w'.disk.get? a ≠ some (.file bytes) := by
  obtain ⟨ended, hacts, hok, herror⟩ := generateAll_performs h
  have htouched := (touched_begun (generationActs modules verbose) w).2
  rw [hacts, hjs] at htouched
  obtain ⟨l, rest, w₁, hbegun, hone, hrest, hmade, hhere, htouches, hlast⟩ :=
    performAll_begun hacts
  rw [hjs] at hbegun
  refine ⟨fun template a content hfile hapart => ?_,
    ⟨l, rest, w₁.disk, hbegun, hone, fun g hg => hrest (hok g hg), hmade,
      fun template a content => hmade.lies_apart htouches⟩,
    fun i hi hnull a content hfile htarget => ?_⟩
  · have hleads := follow_of_keepsFolders htouched.folders hfile.leads
    exact hfile.stays htouched (not_leads_of_apart hleads hapart)
  · rw [hbegun] at hi
    rcases List.mem_append.mp hi with hdone | hbroken
    · obtain ⟨e, he, rfl⟩ := List.mem_map.mp hdone
      exact (hmade.not_own he hfile.leads htarget).elim
    · obtain ⟨f, hf, hrun⟩ := hlast i hbroken
      exact ⟨⟨f, herror f hf⟩, hmade.lost hhere hfile htarget hnull hrun⟩

end

/-! ### A module that writes over its template -/

/-- Of the two destinations of the module, one is its own template. -/
def mirrorModule : Module :=
  { (default : Module) with
    name := "Mirror"
    folder := ⟨.top, ["Mirror"]⟩
    extensionPoints := [
      { (default : ExtensionPoint) with
        name := "Frame"
        source := .str "F.h"
        destination := .str "codebuild/F.h" },
      { (default : ExtensionPoint) with
        name := "Glass"
        source := .str "G.h"
        destination := .str "codegen/G.h" }] }

def mirrorShop : Workshop :=
  { (default : Workshop) with
    disk := ⟨[(["Mirror"], .folder), (["Mirror", "codegen"], .folder),
      (["Mirror", "codegen", "F.h"], .file "frame".toUTF8),
      (["Mirror", "codegen", "G.h"], .file "glass".toUTF8)]⟩ }

def framePath : Path := ⟨.top, ["Mirror", "codegen", "F.h"]⟩

def glassPath : Path := ⟨.top, ["Mirror", "codegen", "G.h"]⟩

theorem generateAll_templates_mirror :
    ∃ f w', (generateAll [mirrorModule] false).run mirrorShop = (.error f, w')
      ∧ FileAt w'.disk mirrorShop.here framePath framePath.names "frame".toUTF8
      ∧ ∀ bytes, w'.disk.get? glassPath.names ≠ some (.file bytes) := by
  have hframe : FileAt mirrorShop.disk mirrorShop.here framePath framePath.names
      "frame".toUTF8 := ⟨by decide +kernel, by decide +kernel⟩
  have hglass : FileAt mirrorShop.disk mirrorShop.here glassPath glassPath.names
      "glass".toUTF8 := ⟨by decide +kernel, by decide +kernel⟩
  have hown : ∃ i ∈ begun (generationActs [mirrorModule] false) mirrorShop,
      i.source = glassPath ∧ i.target = glassPath := by
    decide +kernel
  have hapart : ∀ j ∈ begun (generationActs [mirrorModule] false) mirrorShop,
      ¬ SameFile ((generateAll [mirrorModule] false).run mirrorShop).2.disk mirrorShop.here
        framePath j.target := by
    decide +kernel
  obtain ⟨i, hi, hsource, htarget⟩ := hown
  have hnull : hasNull i.target = false := by
    rw [htarget]
    decide +kernel
  have hleads : mirrorShop.disk.follow mirrorShop.here i.target = .ok glassPath.names := by
    rw [htarget]
    exact hglass.leads
  have hsame : FileAt mirrorShop.disk mirrorShop.here i.source glassPath.names
      "glass".toUTF8 := by
    rw [hsource]
    exact hglass
  cases hrun : (generateAll [mirrorModule] false).run mirrorShop with
  | mk result w' =>
      rw [hrun] at hapart
      obtain ⟨hstays, -, hlost⟩ := generateAll_templates hrun rfl
      obtain ⟨⟨f, rfl⟩, hgone⟩ := hlost i hi hnull _ _ hsame hleads
      exact ⟨f, w', rfl, hstays _ _ _ hframe hapart, hgone⟩

/-- The same destination, declared in the module's folder. -/
def declaredShop : Workshop :=
  { (default : Workshop) with
    disk := ⟨[(["Mirror"], .folder),
      (["Mirror", "ModuleInfo.json"],
        .file ("\x7b\"Name\":\"Mirror\",\"ModuleExtensionDefinition\":[\x7b\"Name\":\"Glass\"," ++
          "\"CodeGenSource\":\"G.h\",\"CodeGenDestination\":\"codegen/G.h\"\x7d]\x7d").toUTF8),
      (["Mirror", "codegen"], .folder),
      (["Mirror", "codegen", "G.h"], .file "glass".toUTF8)]⟩ }

/-- A module that a validation accepts loses its template. -/
theorem generateAll_loses_template :
    ∃ v m, ((validateFolder ⟨.top, ["Mirror"]⟩).run declaredShop).1.toOption = some v
      ∧ v.errors = [] ∧ v.module = some m ∧ (Capability.checkSet [m]).isOk = true
      ∧ glassPath ∈ (begun (generationActs [m] false) declaredShop).map (·.source)
      ∧ declaredShop.disk.get? glassPath.names = some (.file "glass".toUTF8)
      ∧ ((generateAll [m] false).run declaredShop).2.disk.get? glassPath.names = none := by
  have hall : ((validateFolder ⟨.top, ["Mirror"]⟩).run declaredShop).1.toOption.any (fun v =>
      v.errors = [] && v.module.any fun m => (Capability.checkSet [m]).isOk
        && (glassPath ∈ (begun (generationActs [m] false) declaredShop).map (·.source))
        && ((generateAll [m] false).run declaredShop).2.disk.get? glassPath.names = none)
      = true := by
    decide +kernel
  obtain ⟨v, hv, hvalid⟩ := (Option.any_eq_true _ _).mp hall
  rw [Bool.and_eq_true, Option.any_eq_true] at hvalid
  obtain ⟨herrors, m, hm, hlost⟩ := hvalid
  simp only [Bool.and_eq_true, decide_eq_true_eq] at herrors hlost
  obtain ⟨⟨hset, hbegun⟩, hgone⟩ := hlost
  exact ⟨v, m, hv, herrors, hm, hset, hbegun, by decide +kernel, hgone⟩

end PatchForge
