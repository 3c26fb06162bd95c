import PatchForge.Command.Run
import PatchForge.Proofs.Build.Looking
import PatchForge.Proofs.Capability.Declared
import PatchForge.Proofs.Capability.Report
import PatchForge.Proofs.Work.Alike
import PatchForge.Proofs.Work.Questions

/-!
# Verifying is the first part of a build

The command that verifies capabilities and a build before it generates
anything look at the same things: the folder, the modules found in it,
their identifiers and what they require. The command is quiet where a
build talks, and it makes a report where a build stops at the first thing
missing. Neither matters to the outcome (`alike_discover`,
`Report.agrees`), so the command ends with exit code 0 exactly if a build
would come as far as generating (`verify_agrees`).
-/

namespace PatchForge

open Work

namespace BuildPlan

variable {plan : BuildPlan} {folder : String} {w w' : Workshop}

/-- A plan that is only to generate is checked for its modules folder. -/
theorem check_ok (hfolder : plan.modulesFolder = some folder) :
    (plan.check false).run w = (.ok (), w')
      ↔ (folder ≠ "" ∧ w.hasFolder (Path.parse folder) = true) ∧ w' = w := by
  rw [check, if_neg Bool.false_ne_true, hfolder, bind_ok]
  constructor
  · rintro ⟨there, w₁, hthere, hthen⟩
    cases there with
    | true =>
        cases hthen
        exact namesFolder_true.mp hthere
    | false => cases hthen
  · intro hthere
    exact ⟨true, w', namesFolder_true.mpr hthere, rfl⟩

end BuildPlan

/-! ## The modules of a build -/

/-- The modules of a folder are found, no identifiers clash and nothing required is missing. -/
def Sound (folder : String) (w : Workshop) : Prop :=
  ∃ d w', (discover (Path.parse folder) false).run w = (.ok d, w')
    ∧ Capability.checkSet d.modules = .ok ()
    ∧ ∃ resolved, Capability.verify d.modules = .ok resolved

theorem Build.load_iff {plan : BuildPlan} {folder : String}
    (hfolder : plan.modulesFolder = some folder) {w : Workshop} :
    (∃ found w', (Build.load plan).run w = (.ok found, w')) ↔ Sound folder w := by
  have hsaid : ∀ (n : Notice) (w : Workshop),
      (say n).run w = (.ok (), { w with said := w.said ++ [n.shown] }) := fun _ _ => rfl
  rw [Build.load, hfolder, Option.getD_some]
  constructor
  · rintro ⟨found, w', h⟩
    obtain ⟨_, w₁, hsay, hthen⟩ := bind_ok.mp h
    rw [hsaid] at hsay
    cases hsay
    obtain ⟨d, w₂, hdiscover, hthen⟩ := bind_ok.mp hthen
    obtain ⟨_, w₃, -, hthen⟩ := bind_ok.mp hthen
    obtain ⟨_, w₄, hset, hthen⟩ := bind_ok.mp hthen
    obtain ⟨resolved, w₅, hverify, -⟩ := bind_ok.mp hthen
    obtain ⟨w₂', hquiet, -⟩ := (alike_discover _ true false).ok hdiscover
      (show _ = w.silent from rfl)
    exact ⟨d, w₂', hquiet, (ofExcept_ok.mp hset).1, resolved, (ofExcept_ok.mp hverify).1⟩
  · rintro ⟨d, w', hdiscover, hset, resolved, hverify⟩
    let w₁ : Workshop :=
      { w with said := w.said ++ [Notice.shown (.info "Loading Modules..." "folder")] }
    obtain ⟨w₂, haloud, -⟩ :=
      (alike_discover _ false true).ok hdiscover (show _ = w₁.silent from rfl)
    refine ⟨(d.modules, resolved), exists_bind_ok.mpr ⟨(), w₁, hsaid _ _, ?_⟩⟩
    refine exists_bind_ok.mpr ⟨d, w₂, haloud, exists_bind_ok.mpr ⟨(), _, hsaid _ _, ?_⟩⟩
    refine exists_bind_ok.mpr ⟨(), _, ofExcept_ok.mpr ⟨hset, rfl⟩, ?_⟩
    exact exists_bind_ok.mpr ⟨resolved, _, ofExcept_ok.mpr ⟨hverify, rfl⟩, _, rfl⟩

namespace Command

variable {w w' : Workshop} {folder : String}

/-! ## The command -/

theorem reporting_ok {foreseen : Failure → Bool} {before : String} {work : Work Nat} :
    (reporting foreseen before work).run w = (.ok 0, w') ↔ work.run w = (.ok 0, w') := by
  unfold reporting
  rw [run_bind, run_tryCatch, run_bind]
  cases work.run w with
  | mk result w₁ =>
      cases result with
      | ok code => exact Iff.rfl
      | error f =>
          refine iff_of_false (fun h => ?_) (by simp)
          cases hf : foreseen f with
          | true =>
              simp only [hf, if_true] at h
              cases h
          | false =>
              simp only [hf, Bool.false_eq_true, if_false] at h
              cases h

/-- What the exit code of the command says. -/
theorem runVerify_ok : (∃ w', (runVerify folder).run w = (.ok 0, w')) ↔ Sound folder w := by
  simp only [runVerify, reporting_ok]
  constructor
  · rintro ⟨w', h⟩
    obtain ⟨d, w₁, hdiscover, hthen⟩ := bind_ok.mp h
    obtain ⟨_, w₂, hset, hthen⟩ := bind_ok.mp hthen
    obtain ⟨r, w₃, hreport, hthen⟩ := bind_ok.mp hthen
    refine ⟨d, w₁, hdiscover, (ofExcept_ok.mp hset).1, ?_⟩
    refine (Capability.Report.agrees (ofExcept_ok.mp hreport).1).verified.mpr ?_
    by_contra herrors
    rw [Bool.not_eq_false] at herrors
    rw [if_pos herrors] at hthen
    obtain ⟨_, _, -, hthen⟩ := bind_ok.mp hthen
    obtain ⟨_, _, -, hcode⟩ := bind_ok.mp hthen
    cases hcode
  · rintro ⟨d, w₁, hdiscover, hset, hverify⟩
    obtain ⟨r, hreport⟩ := Capability.exists_report.mpr (Capability.exported_of_checkSet hset).1
    have herrors := (Capability.Report.agrees hreport).verified.mp hverify
    refine exists_bind_ok.mpr ⟨d, w₁, hdiscover, ?_⟩
    refine exists_bind_ok.mpr ⟨(), w₁, ofExcept_ok.mpr ⟨hset, rfl⟩, ?_⟩
    refine exists_bind_ok.mpr ⟨r, w₁, ofExcept_ok.mpr ⟨hreport, rfl⟩, ?_⟩
    rw [if_neg (by simp [herrors])]
    exact exists_bind_ok.mpr ⟨(), _, rfl, _, rfl⟩

theorem look_folder {text : String} : (look text).run w = (.ok (some .folder), w')
    ↔ (text ≠ "" ∧ w.hasFolder (Path.parse text) = true) ∧ w' = w := by
  unfold look Workshop.hasFolder
  dsimp only
  cases hn : hasNull (Path.parse text) with
  | true =>
      rw [if_pos rfl]
      refine iff_of_false (fun h => ?_) (by simp)
      cases h
  | false =>
      rw [if_neg Bool.false_ne_true]
      by_cases htext : text = ""
      · rw [if_pos htext]
        refine iff_of_false (fun h => ?_) fun h => h.1.1 htext
        cases h
      · rw [if_neg htext, run_bind, run_get]
        dsimp only
        cases w.disk.find w.here (Path.parse text) with
        | error e =>
            refine iff_of_false (fun h => ?_) (by simp)
            cases h
        | ok found =>
            obtain ⟨place, entry⟩ := found
            cases entry with
            | folder =>
                simp only [run_pure, Prod.mk.injEq, true_and, htext, ne_eq, not_false_eq_true,
                  Bool.not_false, Bool.and_true]
                exact eq_comm
            | file content =>
                refine iff_of_false (fun h => ?_) (by simp)
                cases hends : look.endsLikeFolder text.toList.reverse with
                | true => simp [hends] at h
                | false => simp [hends] at h

/-- Nothing is wrong with the folder that the command names. -/
theorem checkFolders_verify : (checkFolders (.verify folder)).run w = (.ok none, w')
    ↔ (folder ≠ "" ∧ w.hasFolder (Path.parse folder) = true) ∧ w' = w := by
  rw [checkFolders, folders, firstFault, bind_ok]
  constructor
  · rintro ⟨there, w₁, hlook, hthen⟩
    match there with
    | some .folder =>
        cases hthen
        exact look_folder.mp hlook
    | some (.file content) => cases hthen
    | none => cases hthen
  · rintro hthere
    exact ⟨some .folder, w', look_folder.mpr hthere, rfl⟩

/-- The tool ends with exit code 0 if it is given a command that does. -/
theorem run_exit {arguments : List String} {command : Command}
    (h : ofArguments arguments = .ok command) : (∃ w', (run arguments).run w = (.ok 0, w'))
      ↔ ∃ w₁, command.checkFolders.run w = (.ok none, w₁)
        ∧ ∃ w', command.perform.run w₁ = (.ok 0, w') := by
  unfold run
  rw [h, exists_bind_ok]
  dsimp only
  constructor
  · rintro ⟨ending, w₁, htry, w', hending⟩
    rw [run_tryCatch] at htry
    split at htry
    · rename_i ending' w₁' hrun
      cases htry
      obtain ⟨fault, w₂, hchecked, hthen⟩ := bind_ok.mp hrun
      cases fault with
      | some f =>
          cases hthen
          cases hending
      | none =>
          obtain ⟨code, w₃, hperform, hcode⟩ := bind_ok.mp hthen
          cases hcode
          cases hending
          exact ⟨w₂, hchecked, _, hperform⟩
    · cases htry
      cases hending
  · rintro ⟨w₁, hchecked, w', hperform⟩
    refine ⟨.ok 0, w', ?_, w', rfl⟩
    rw [run_tryCatch, bind_ok.mpr ⟨none, w₁, hchecked, bind_ok.mpr ⟨0, w', hperform, rfl⟩⟩]

/-! ## Agreement -/

/-- **Capabilities are checked alike by reports, by builds and by the command.** There is a report
of a module set unless a module exports an array or an object. It has errors exactly if the check
before a build fails, the first of them being what that check stops with, and one for each module
that requires what no other module exports; it resolves each module, and finds each exporter, as
a lookup does. So the command ends with exit code 0 exactly if a build of the same folder comes as
far as generating. -/
theorem verify_agrees :
    (∀ modules,
      ((∃ r, Capability.report modules = .ok r)
        ↔ ∀ m ∈ modules, ∀ v, m.exported = some v → v.isScalar = true)
      ∧ ∀ r, Capability.report modules = .ok r → r.Agrees modules)
    ∧ ∀ arguments folder (plan : BuildPlan) w, ofArguments arguments = .ok (.verify folder) →
      plan.modulesFolder = some folder →
        ((∃ w', (run arguments).run w = (.ok 0, w'))
          ↔ ∃ w₁ found w₂, (plan.check false).run w = (.ok (), w₁)
            ∧ (Build.load plan).run w₁ = (.ok found, w₂)) := by
  refine ⟨fun modules => ⟨Capability.exists_report, fun r => Capability.Report.agrees⟩, ?_⟩
  intro arguments folder plan w harguments hfolder
  rw [run_exit harguments]
  constructor
  · rintro ⟨w₁, hchecked, hperform⟩
    obtain ⟨hthere, rfl⟩ := checkFolders_verify.mp hchecked
    obtain ⟨found, w₂, hload⟩ := (Build.load_iff hfolder).mpr (runVerify_ok.mp hperform)
    exact ⟨w₁, found, w₂, (BuildPlan.check_ok hfolder).mpr ⟨hthere, rfl⟩, hload⟩
  · rintro ⟨w₁, found, w₂, hcheck, hload⟩
    obtain ⟨hthere, rfl⟩ := (BuildPlan.check_ok hfolder).mp hcheck
    refine ⟨w₁, checkFolders_verify.mpr ⟨hthere, rfl⟩, runVerify_ok.mpr ?_⟩
    exact (Build.load_iff hfolder).mp ⟨found, w₂, hload⟩

/-! ### A folder with one module -/

def mixerShop : Workshop :=
  { (default : Workshop) with
    disk := ⟨[(["Mods"], .folder), (["Mods", "Mixer"], .folder),
      (["Mods", "Mixer", "ModuleInfo.json"],
        .file "\x7b\"Name\": \"Mixer\", \"APIId\": \"Sound\"\x7d".toUTF8)]⟩ }

theorem verify_agrees_mixer :
    (∃ w', (run ["deps", "verify", "Mods"]).run mixerShop = (.ok 0, w'))
    ∧ ∃ r, Capability.report [Capability.channelModule (.str "5"),
        Capability.listenerModule (.str "5")] = .ok r ∧ r.hasErrors = false := by
  obtain ⟨hreports, hexits⟩ := verify_agrees
  constructor
  · have harguments : ofArguments ["deps", "verify", "Mods"] = .ok (.verify "Mods") := by
      simp [ofArguments, ofArguments.find, capabilityCommand, capabilityCommand.find,
        groupCommand, take, takeFrom, isOption, early, folderCommand, unlessHelp, oneFolder,
        Given.withOperands, Given.has, bind, Except.bind]
    let plan : BuildPlan := { modulesFolder := some "Mods" }
    refine (hexits _ _ plan mixerShop harguments rfl).mpr ?_
    have hchecked : ((plan.check false).run mixerShop).1.toOption = some () := by
      decide +kernel
    have hloaded : ((Build.load plan).run ((plan.check false).run mixerShop).2).1.toOption.isSome
        = true := by
      decide +kernel
    obtain ⟨found, hfound⟩ := Option.isSome_iff_exists.mp hloaded
    exact ⟨_, found, _, run_of_result hchecked, run_of_result hfound⟩
  · obtain ⟨hexists, hagrees⟩ := hreports [Capability.channelModule (.str "5"),
      Capability.listenerModule (.str "5")]
    obtain ⟨r, hr⟩ := hexists.mpr fun m hm v hv => by
      rcases List.mem_cons.mp hm with rfl | hm
      · cases hv
        rfl
      · obtain rfl := List.mem_singleton.mp hm
        cases hv
    refine ⟨r, hr, (hagrees r hr).verified.mp ⟨[("Channel", []), ("Listener", ["5"])], ?_⟩⟩
    exact Result.toOption_some.mp (by decide +kernel)

/-- A module that exports an array passes the check before a build, and has no report. -/
theorem verify_agrees_array :
    Declaration.moduleOf (Capability.channelDeclaration (.arr [.str "x"])) ⟨.top, ["Channel"]⟩
        = .ok (Capability.channelModule (.arr [.str "x"]))
      ∧ Capability.verify [Capability.channelModule (.arr [.str "x"])] = .ok [("Channel", [])]
      ∧ Capability.report [Capability.channelModule (.arr [.str "x"])]
        = .error (.misuse (.keyed "list")) := by
  exact ⟨rfl, Result.toOption_some.mp (by decide +kernel), rfl⟩

end Command

end PatchForge
