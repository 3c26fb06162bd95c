import PatchForge.Proofs.Build.Preflight
import PatchForge.Proofs.Command.Verify
import PatchForge.Proofs.Discovery.Account
import PatchForge.Proofs.Generation.Template

/-!
# Validation protects generation

The command that validates a folder and the one that generates from it
are separate code: one collects complaints, the other stops at what it
cannot do. This file reads off what a validation without errors has seen
(`runValidate_ok`): the modules were found and loaded, their identifiers
do not clash, and every extension point of theirs has its template and
as many destinations as sources (`ExtensionPoint.Checked`).

Generation from the same state finds the same modules. What it could
still trip over are its own files: the tree changes between the check
and the moment a template is needed. But it changes at the files that are
generated and nowhere else, so the templates are there as long as none of
these files is one of them (`validate_protects`).
-/

namespace PatchForge

open Work

/-! ## What a validation without errors has seen -/

/-- Nothing is wrong with the extension point of the module. -/
structure ExtensionPoint.Checked (w : Workshop) (m : Module) (p : ExtensionPoint) : Prop where
  mode : p.isFixed = true ∨ p.isTemplated = true
  source : p.isFixed = true →
    ∃ s, p.source = .str s ∧ w.hasFile (m.codegenDir.child s) = true
  paired : ∀ sources destinations, p.templateSources = some sources →
    p.templateDestinations = some destinations → sources.length = destinations.length

theorem Validation.errors_addError (v : Validation) (text : String) :
    (v.addError text).errors ≠ [] := by simp [addError]

section

variable {w w' : Workshop} {m : Module} {p : ExtensionPoint} {v v' : Validation}

theorem checkMode_clean (h : (checkMode p v).errors = []) :
    v.errors = [] ∧ (p.isFixed = true ∨ p.isTemplated = true) := by
  unfold checkMode at h
  split at h
  · rename_i hmode
    exact ⟨h, by simpa using hmode⟩
  · exact (v.errors_addError _ h).elim

theorem checkSource_clean (hrun : (checkSource m p v).run w = (.ok v', w'))
    (h : v'.errors = []) : w' = w ∧ v.errors = [] ∧ (p.isFixed = true →
      ∃ s, p.source = .str s ∧ w.hasFile (m.codegenDir.child s) = true) := by
  unfold checkSource at hrun
  cases hfixed : p.isFixed with
  | false =>
      rw [hfixed] at hrun
      cases hrun
      exact ⟨rfl, h, nofun⟩
  | true =>
      simp only [hfixed, Bool.not_true, Bool.false_eq_true, if_false] at hrun
      obtain ⟨source, w₁, hsource, hrun⟩ := bind_ok.mp hrun
      obtain ⟨there, w₂, hthere, hrun⟩ := bind_ok.mp hrun
      obtain ⟨hfile, rfl⟩ := isFile_ok hthere
      cases hs : p.source with
      | str s =>
          rw [hs] at hsource
          cases hsource
          cases there with
          | true =>
              cases hrun
              exact ⟨rfl, h, fun _ => ⟨s, rfl, hfile.symm⟩⟩
          | false =>
              obtain ⟨_, _, -, hrun⟩ := bind_ok.mp hrun
              cases hrun
              exact (v.errors_addError _ h).elim
      | _ =>
          rw [hs] at hsource
          cases hsource

theorem checkTemplates_clean (h : (checkTemplates p v).errors = []) :
    v.errors = [] ∧ ∀ sources destinations, p.templateSources = some sources →
      p.templateDestinations = some destinations → sources.length = destinations.length := by
  unfold checkTemplates at h
  split at h
  · rename_i sources destinations hs hd
    split at h
    · rename_i heq
      refine ⟨h, fun sources' destinations' hs' hd' => ?_⟩
      cases hs.symm.trans hs'
      cases hd.symm.trans hd'
      exact heq
    · exact (v.errors_addError _ h).elim
  · rename_i hno
    exact ⟨h, fun sources destinations hs hd => (hno sources destinations hs hd).elim⟩

theorem checkVariables_errors : (checkVariables p v).errors = v.errors := by
  unfold checkVariables
  split <;> rfl

theorem checkPoint_clean (hrun : (checkPoint m v p).run w = (.ok v', w'))
    (h : v'.errors = []) : w' = w ∧ v.errors = [] ∧ p.Checked w m := by
  obtain ⟨v₁, w₁, hsource, hpure⟩ := bind_ok.mp hrun
  cases hpure
  rw [checkVariables_errors] at h
  obtain ⟨h, hpaired⟩ := checkTemplates_clean h
  obtain ⟨hw, h, hsource⟩ := checkSource_clean hsource h
  obtain ⟨h, hmode⟩ := checkMode_clean h
  exact ⟨hw, h, hmode, hsource, hpaired⟩

/-- Errors only add up, so at the end there are none if there were none on the way. -/
theorem checkPoints_clean : ∀ {points : List ExtensionPoint} {v : Validation} {w : Workshop},
    (points.foldlM (checkPoint m) v).run w = (.ok v', w') → v'.errors = [] →
      w' = w ∧ v.errors = [] ∧ ∀ p ∈ points, p.Checked w m
  | [], v, w, hrun, h => by
      cases hrun
      exact ⟨rfl, h, by simp⟩
  | p :: points, v, w, hrun, h => by
      rw [List.foldlM_cons] at hrun
      obtain ⟨v₁, w₁, hpoint, hpoints⟩ := bind_ok.mp hrun
      obtain ⟨hw', hv₁, hchecked⟩ := checkPoints_clean hpoints h
      obtain ⟨rfl, hv, hp⟩ := checkPoint_clean hpoint hv₁
      exact ⟨hw', hv, List.forall_mem_cons.mpr ⟨hp, hchecked⟩⟩

theorem loadOrMessage_of_loads {folder : Path} (h : (loadModule folder).run w = (.ok m, w)) :
    (loadOrMessage folder).run w = (.ok (.ok m), w) := by
  unfold loadOrMessage
  rw [run_bind, run_tryCatch, run_bind, h]
  rfl

/-- A module folder without errors, its module being known. -/
theorem validateFolder_clean (hload : (loadModule m.folder).run w = (.ok m, w))
    (hrun : (validateFolder m.folder).run w = (.ok v, w')) (h : v.errors = []) :
    w' = w ∧ ∀ p ∈ m.extensionPoints, p.Checked w m := by
  unfold validateFolder at hrun
  obtain ⟨there, w₁, hthere, hthen⟩ := bind_ok.mp hrun
  obtain ⟨entry, _, hentry, hpure⟩ := bind_ok.mp hthere
  cases hpure
  have hsame : w₁ = w := by
    cases entry with
    | none => exact (lookUp?_none hentry).1
    | some e => exact (lookUp?_some hentry).1
  rw [hsame] at hthen
  split at hthen
  · cases hthen
    exact (Validation.errors_addError _ _ h).elim
  obtain ⟨isThere, w₂, hisThere, hload'⟩ := bind_ok.mp hthen
  obtain ⟨-, hsame'⟩ := isFolder_ok hisThere
  rw [hsame'] at hload'
  split at hload'
  · cases hload'
    exact (Validation.errors_addError _ _ h).elim
  rw [run_bind, loadOrMessage_of_loads hload] at hload'
  obtain ⟨v₁, w₃, hpoints, hwarn⟩ := bind_ok.mp hload'
  obtain ⟨hasSources, w₄, hsources, hlast⟩ := bind_ok.mp hwarn
  obtain ⟨-, hsame''⟩ := isFolder_ok hsources
  have hend : w' = w₃ ∧ v₁.errors = [] := by
    rw [hsame''] at hlast
    split at hlast
    · cases hlast
      exact ⟨rfl, h⟩
    · cases hlast
      exact ⟨rfl, h⟩
  obtain ⟨hw, -, hchecked⟩ := checkPoints_clean hpoints hend.2
  exact ⟨hend.1.trans hw, hchecked⟩

/-- Only the file tree and the folder the tool runs in enter into the check. -/
theorem ExtensionPoint.Checked.congr (hw : w'.silent = w.silent) (h : p.Checked w' m) :
    p.Checked w m where
  mode := h.mode
  source hfixed := by
    obtain ⟨s, hs, hfile⟩ := h.source hfixed
    have hsilent : w'.silent.hasFile (m.codegenDir.child s) = true := hfile
    rw [hw] at hsilent
    exact ⟨s, hs, hsilent⟩
  paired := h.paired

end

/-! ## The command -/

namespace Work

/-- Something said for each item leaves alone what saying leaves alone. -/
theorem looking_forIn {α : Type} {g : α → Work PUnit} (h : ∀ a, Meets looking (g a)) :
    ∀ l : List α, Meets looking (forIn l PUnit.unit fun a _ => do
      g a
      pure (.yield PUnit.unit))
  | [] => meets_pure _
  | a :: l => by
      rw [List.forIn_cons]
      simp only [bind_assoc, pure_bind]
      exact meets_bind (h a) fun _ => looking_forIn h l

end Work

namespace Command

variable {w w' : Workshop} {folder : String}

theorem sayValidation_ok {name : String} {v : Validation} {n : Nat}
    (h : (sayValidation name v).run w = (.ok n, w')) :
    n = v.errors.length ∧ w'.silent = w.silent := by
  have hsay : ∀ n : Notice, Meets looking (say n) := meets_say looking_hears
  have hlooking : Meets looking (sayValidation name v) :=
    meets_bind (hsay _) fun _ => meets_bind (looking_forIn (fun _ => hsay _) _) fun _ =>
      meets_bind (looking_forIn (fun _ => hsay _) _) fun _ => meets_pure _
  refine ⟨?_, hlooking.ok h⟩
  obtain ⟨_, _, -, h⟩ := bind_ok.mp h
  obtain ⟨_, _, -, h⟩ := bind_ok.mp h
  obtain ⟨_, _, -, h⟩ := bind_ok.mp h
  cases h
  rfl

/-- Modules that are there and add up to no errors are all in order. -/
theorem validateEach_clean : ∀ {modules : List Module} {w w' : Workshop},
    (∀ m ∈ modules, ∀ w₁ : Workshop, w₁.silent = w.silent →
      (loadModule m.folder).run w₁ = (.ok m, w₁)) →
    (validateEach modules).run w = (.ok 0, w') →
      w'.silent = w.silent ∧ ∀ m ∈ modules, ∀ p ∈ m.extensionPoints, p.Checked w m
  | [], w, w', _, h => by
      cases h
      exact ⟨rfl, by simp⟩
  | m :: modules, w, w', hload, h => by
      obtain ⟨hm, hrest⟩ := List.forall_mem_cons.mp hload
      obtain ⟨v, w₁, hvalidate, h⟩ := bind_ok.mp h
      obtain ⟨n, w₂, hsay, h⟩ := bind_ok.mp h
      obtain ⟨k, w₃, heach, hpure⟩ := bind_ok.mp h
      obtain ⟨hsum, rfl⟩ : n + k = 0 ∧ w₃ = w' := by
        obtain ⟨hcode, hw⟩ := Prod.mk.inj hpure
        exact ⟨Except.ok.inj hcode, hw⟩
      obtain ⟨rfl, rfl⟩ : n = 0 ∧ k = 0 := by omega
      obtain ⟨hnone, hsilent⟩ := sayValidation_ok hsay
      obtain ⟨rfl, hchecked⟩ := validateFolder_clean (hm w rfl) hvalidate
        (List.eq_nil_of_length_eq_zero hnone.symm)
      obtain ⟨hsilent', hchecked'⟩ := validateEach_clean
        (fun m hm w₄ hw₄ => hrest m hm w₄ (hw₄.trans hsilent)) heach
      refine ⟨hsilent'.trans hsilent, List.forall_mem_cons.mpr ⟨hchecked, ?_⟩⟩
      exact fun m hm p hp => (hchecked' m hm p hp).congr hsilent

theorem validateSet_zero {modules : List Module}
    (h : (validateSet modules).run w = (.ok 0, w')) : Capability.checkSet modules = .ok () := by
  unfold validateSet at h
  cases hset : Capability.checkSet modules with
  | ok u => rfl
  | error f =>
      rw [hset] at h
      cases f with
      | clash c =>
          obtain ⟨_, _, -, hcode⟩ := bind_ok.mp h
          cases hcode
      | misuse cause => cases h

/-- The command goes on with the modules found, or ends with exit code 1. -/
theorem loadModules_ok {result : Except Nat (List Module)}
    (h : (loadModules folder).run w = (.ok result, w')) : result = .error 1
      ∨ ∃ d, (discover (Path.parse folder) false).run w = (.ok d, w') ∧ result = .ok d.modules := by
  unfold loadModules at h
  rw [run_bind, run_tryCatch, run_bind] at h
  cases hd : (discover (Path.parse folder) false).run w with
  | mk found w₁ =>
      rw [hd] at h
      cases found with
      | ok d =>
          cases h
          exact Or.inr ⟨d, rfl, rfl⟩
      | error f =>
          dsimp only at h
          left
          cases hreported : f.isReported with
          | true =>
              simp only [hreported, if_true] at h
              cases h
              rfl
          | false =>
              simp only [hreported, Bool.false_eq_true, if_false] at h
              cases h

/-- What a validation with exit code 0 has seen: the modules, in order each by itself and as a
set. -/
theorem runValidate_ok (h : (runValidate folder).run w = (.ok 0, w')) :
    ∃ d, (discover (Path.parse folder) false).run w = (.ok d, w)
      ∧ Capability.checkSet d.modules = .ok ()
      ∧ ∀ m ∈ d.modules, ∀ p ∈ m.extensionPoints, p.Checked w m := by
  obtain ⟨result, w₁, hload, hthen⟩ := bind_ok.mp h
  rcases loadModules_ok hload with rfl | ⟨d, hdiscover, rfl⟩
  · cases hthen
  obtain ⟨rfl, fates, haccount, rfl⟩ := discover_ok hdiscover
  obtain ⟨single, w₂, heach, hthen⟩ := bind_ok.mp hthen
  obtain ⟨set, w₃, hset, hthen⟩ := bind_ok.mp hthen
  have hzero : single = 0 ∧ set = 0 := by
    by_contra hne
    rw [if_pos (show single + set ≠ 0 by omega)] at hthen
    obtain ⟨_, _, -, hcode⟩ := bind_ok.mp hthen
    cases hcode
  obtain ⟨rfl, rfl⟩ := hzero
  refine ⟨_, hdiscover, validateSet_zero hset, ?_⟩
  refine (validateEach_clean (fun m hm w₄ hw₄ => ?_) heach).2
  rw [Discovery.foldl_note] at hm
  obtain ⟨w₅, hloads, -⟩ := (alike_loadModule m.folder).ok (haccount.loads m hm) hw₄.symm
  obtain rfl := unchanged_of_keeping (keeping_loadModule _) hloads
  exact hloads

end Command

/-! ## The build -/

/-- Failures that a validation without errors rules out. -/
def Failure.isForestalled : Failure → Bool
  | .configuration _ | .load .. | .clash _ | .unevenTemplates .. => true
  | _ => false

theorem Failure.isForestalled_of_isOfFiles {f : Failure} (h : f.isOfFiles) :
    f.isForestalled = false := by
  cases f with
  | configuration | load | clash | unevenTemplates => cases h
  | _ => rfl

section

variable {w w' : Workshop} {folder : String} {plan : BuildPlan} {d : Discovery}

/-- Modules that were found quietly and do not clash are loaded by a build, unless a capability
is missing. -/
theorem Build.load_of_found (hfolder : plan.modulesFolder = some folder)
    (hfound : (discover (Path.parse folder) false).run w = (.ok d, w))
    (hset : Capability.checkSet d.modules = .ok ()) {result : Except Failure _}
    (hrun : (Build.load plan).run w = (result, w')) :
    (∃ missing, result = .error (.missingCapability missing))
      ∨ ∃ resolved, result = .ok (d.modules, resolved) := by
  have hsaid : ∀ (n : Notice) (w : Workshop),
      (say n).run w = (.ok (), { w with said := w.said ++ [n.shown] }) := fun _ _ => rfl
  let w₁ : Workshop :=
    { w with said := w.said ++ [Notice.shown (.info "Loading Modules..." "folder")] }
  obtain ⟨w₂, haloud, -⟩ :=
    (alike_discover _ false true).ok hfound (show _ = w₁.silent from rfl)
  rw [Build.load, hfolder, Option.getD_some, run_bind, hsaid] at hrun
  dsimp only at hrun
  rw [run_bind, haloud] at hrun
  dsimp only at hrun
  rw [run_bind, hsaid] at hrun
  dsimp only at hrun
  rw [hset] at hrun
  cases hverify : Capability.verify d.modules with
  | error missing =>
      rw [hverify] at hrun
      cases hrun
      exact Or.inl ⟨missing, rfl⟩
  | ok resolved =>
      rw [hverify] at hrun
      cases hrun
      exact Or.inr ⟨resolved, rfl⟩

/-- A build that only generates fails, in the end, by a missing capability or in generation. -/
theorem Build.run_of_found {f : Failure} (hfolder : plan.modulesFolder = some folder)
    (hthere : folder ≠ "" ∧ w.hasFolder (Path.parse folder) = true)
    (hfound : (discover (Path.parse folder) false).run w = (.ok d, w))
    (hset : Capability.checkSet d.modules = .ok ())
    (hrun : (Build.run plan true).run w = (.error f, w')) :
    (∃ missing, f = .missingCapability missing)
      ∨ ∃ w₁, w₁.disk = w.disk ∧ w₁.here = w.here
        ∧ (generateAll d.modules true).run w₁ = (.error f, w') := by
  have hcheck : (plan.check false).run w = (.ok (), w) :=
    (BuildPlan.check_ok hfolder).mpr ⟨hthere, rfl⟩
  rcases bind_error.mp hrun with hfails | ⟨_, w₁, hchecked, hthen⟩
  · cases hcheck.symm.trans hfails
  cases hcheck.symm.trans hchecked
  rcases bind_error.mp hthen with hload | ⟨⟨modules, resolved⟩, w₂, hload, hthen⟩
  · rcases Build.load_of_found hfolder hfound hset hload with ⟨missing, hf⟩ | ⟨_, hok⟩
    · exact Or.inl ⟨missing, Except.error.inj hf⟩
    · cases hok
  have hsilent : w₂.silent = w.silent := (looking_load plan).ok hload
  rcases Build.load_of_found hfolder hfound hset hload with ⟨_, hfails⟩ | ⟨_, hok⟩
  · cases hfails
  cases hok
  rcases bind_error.mp hthen with hgenerate | ⟨_, w₃, -, hpure⟩
  · rcases bind_error.mp hgenerate with hgrants | ⟨_, w₃, hgrants, hall⟩
    · cases hgrants
    · cases hgrants
      have hdisk := congrArg Workshop.disk hsilent
      have hhere := congrArg Workshop.here hsilent
      exact Or.inr ⟨{ w₂ with grants := .empty }, hdisk, hhere, hall⟩
  · cases hpure

/-- Where sources and destinations come in pairs, generation fails neither by them nor by
anything that was looked at before. -/
theorem generateAll_unforestalled {modules : List Module} {verbose : Bool} {f : Failure}
    (hpaired : ∀ m ∈ modules, ∀ p ∈ m.extensionPoints, p.Checked w m) {w₁ : Workshop}
    (hrun : (generateAll modules verbose).run w₁ = (.error f, w')) :
    f.isForestalled = false := by
  have hmeets : Meets (.failingBy fun f => f.isForestalled = false)
      (generateAll modules verbose) := by
    refine meets_generateAll fun a ha => ?_
    refine failing_perform (fun _ => Failure.isForestalled_of_isOfFiles) (fun _ => rfl) a
      fun f hf => ?_
    subst hf
    rcases stop_generationActs ha with ⟨_, rfl⟩
      | ⟨m, hm, p, hp, sources, destinations, hs, hd, hne, -⟩ | ⟨_, -, _, -, _, rfl, -⟩
    · rfl
    · exact (hne ((hpaired m hm p hp).paired sources destinations hs hd)).elim
    · rfl
  exact hmeets.error hrun f rfl

/-- Generation never stops with an error of the file tree before it has tried the file. -/
theorem not_stop_disk {modules : List Module} {verbose : Bool} {e : DiskError} {p : Path} :
    .stop (.disk e p) ∉ generationActs modules verbose := by
  intro h
  rcases stop_generationActs h with
    ⟨_, hf⟩ | ⟨_, -, _, -, _, _, -, -, -, hf⟩ | ⟨_, -, _, -, _, hf, -⟩
  · cases hf
  · cases hf
  · cases hf

end

namespace Command

/-- **Validation protects generation.** After a validation with exit code 0, generating from the
same state gets past the folder's name. If its build fails, then not by its configuration, by a
declaration, by a clash or by uneven lists of templates: it fails by a missing capability, which
a validation does not look for, or in generating from the modules that the validation saw. And
there no fixed extension point fails for want of its template, which none of the files begun may
be: the one error that can name the template is that a folder cannot take its place. -/
theorem validate_protects {arguments : List String} {folder : String} {w w₁ : Workshop}
    (harguments : ofArguments arguments = .ok (.validate folder))
    (h : (run arguments).run w = (.ok 0, w₁)) :
    (Command.codegen folder).checkFolders.run w = (.ok none, w)
      ∧ ∃ d, (discover (Path.parse folder) false).run w = (.ok d, w)
        ∧ ∀ f w', (Build.run { modulesFolder := some folder } true).run w = (.error f, w') →
          f.isForestalled = false
          ∧ ((∃ missing, f = .missingCapability missing)
            ∨ ∃ w₂, w₂.disk = w.disk ∧ w₂.here = w.here
              ∧ (generateAll d.modules true).run w₂ = (.error f, w')
              ∧ ∀ m ∈ d.modules, ∀ p ∈ m.extensionPoints, p.isFixed = true →
                ∃ s, p.source = .str s ∧ w.hasFile (m.codegenDir.child s) = true
                  ∧ ((∀ j ∈ begun (generationActs d.modules true) w₂,
                      ¬ SameFile w'.disk w.here (m.codegenDir.child s) j.target) →
                    ∀ e, f = .disk e (m.codegenDir.child s) → e = .occupied)) := by
  obtain ⟨w₂, hchecked, w₃, hperform⟩ := (run_exit harguments).mp ⟨w₁, h⟩
  -- Both commands name the one folder, and must find it there.
  obtain ⟨hthere, rfl⟩ := checkFolders_verify.mp
    (show (checkFolders (.verify folder)).run w = (.ok none, w₂) from hchecked)
  obtain ⟨d, hfound, hset, hpoints⟩ := runValidate_ok hperform
  refine ⟨hchecked, d, hfound, fun f w' hrun => ?_⟩
  rcases Build.run_of_found rfl hthere hfound hset hrun with
    ⟨missing, rfl⟩ | ⟨w₄, hdisk, hhere, hall⟩
  · exact ⟨rfl, Or.inl ⟨missing, rfl⟩⟩
  refine ⟨generateAll_unforestalled hpoints hall, Or.inr ⟨w₄, hdisk, hhere, hall, ?_⟩⟩
  intro m hm p hp hfixed
  obtain ⟨s, hs, hfile⟩ := (hpoints m hm p hp).source hfixed
  obtain ⟨place, content, hat⟩ := FileAt.of_hasFile hfile
  rw [← hdisk, ← hhere] at hat
  refine ⟨s, hs, hfile, fun hapart e he => ?_⟩
  subst he
  rw [← hhere] at hapart
  exact performAll_refused hat not_stop_disk hapart (generateAll_error.mp hall)

/-! ### A destination that is a folder -/

/-- The template is there, but its destination is a folder. -/
def stampShop : Workshop :=
  { (default : Workshop) with
    disk := ⟨[(["Mods"], .folder), (["Mods", "Stamp"], .folder),
      (["Mods", "Stamp", "ModuleInfo.json"],
        .file ("\x7b\"Name\": \"Stamp\", \"ModuleExtensionDefinition\": [\x7b\"Name\": \"P\", " ++
          "\"CodeGenSource\": \"S.h\", \"CodeGenDestination\": \"codebuild\"\x7d]\x7d").toUTF8),
      (["Mods", "Stamp", "codegen"], .folder),
      (["Mods", "Stamp", "codegen", "S.h"], .file "text".toUTF8),
      (["Mods", "Stamp", "codebuild"], .folder)]⟩ }

theorem validate_protects_stamp :
    (Command.codegen "Mods").checkFolders.run stampShop = (.ok none, stampShop)
      ∧ ∃ f w', (Build.run { modulesFolder := some "Mods" } true).run stampShop = (.error f, w')
        ∧ f.isForestalled = false ∧ ∀ missing, f ≠ .missingCapability missing := by
  have harguments : ofArguments ["validate", "Mods"] = .ok (.validate "Mods") := by
    simp [ofArguments, ofArguments.find, groupCommand, take, takeFrom, isOption, early,
      folderCommand, unlessHelp, oneFolder, Given.withOperands, Given.has, bind, Except.bind]
  have hchecked : (Command.validate "Mods").checkFolders.run stampShop = (.ok none, stampShop) :=
    checkFolders_verify.mpr ⟨⟨by decide, by decide +kernel⟩, rfl⟩
  have hperform : ((Command.validate "Mods").perform.run stampShop).1.toOption = some 0 := by
    decide +kernel
  obtain ⟨w₁, hexit⟩ := (run_exit harguments).mpr ⟨stampShop, hchecked, _, run_of_result hperform⟩
  obtain ⟨hcodegen, d, -, hprotects⟩ := validate_protects harguments hexit
  have hfails : (failure? ((Build.run { modulesFolder := some "Mods" } true).run stampShop).1).any
      (fun f => f.isDisk) = true := by
    decide +kernel
  refine ⟨hcodegen, ?_⟩
  cases hrun : (Build.run { modulesFolder := some "Mods" } true).run stampShop with
  | mk result w' =>
      rw [hrun] at hfails
      cases result with
      | ok b => cases hfails
      | error f =>
          refine ⟨f, w', rfl, (hprotects f w' hrun).1, ?_⟩
          rintro missing rfl
          cases hfails

end Command

end PatchForge
