import PatchForge.Proofs.Command.Validate
import PatchForge.Proofs.Declaration.Loading

/-!
# What validation stumbles over

Validation is there to collect complaints, so it should come to an end for
every module that can be loaded. It looks at one thing in the file tree,
the template of a fixed extension point, and there it can stumble: the
source may be no text, its path may be too long to ask about, and the path
of a missing template is shown as seen from the module's folder, which an
absolute path is not below. These are all (`ExtensionPoint.Stumbles`).

Where no extension point makes it stumble, validation gives its result, with
a complaint for each template that is missing (`validateFolder_reports`).
The folder is looked for as it is written, and so a path that goes through
a missing folder and back, which loading does not mind, is reported as no
folder.
-/

namespace PatchForge

open Work

/-- Asking what lies at the path is no failure: what cannot be named is not there, and the
file tree does not find the path too long. -/
def Workshop.Asks (w : Workshop) (p : Path) : Prop :=
  hasNull p = true ∨ w.disk.find w.here p ≠ .error .nameTooLong

namespace Work

variable {w : Workshop} {p : Path}

theorem asks_of_not_tooLong (h : ¬ p.TooLong) : w.Asks p := by
  refine Or.inr fun hfind => ?_
  rcases Disk.find_error hfind with he | he | ⟨-, hlong⟩
  · cases he
  · cases he
  · exact h hlong

theorem asks_of_hasFolder (h : w.hasFolder p = true) : w.Asks p := by
  obtain ⟨-, place, hfind⟩ := Workshop.hasFolder_iff.mp h
  exact Or.inr (by simp [hfind])

theorem lookUp?_of_asks (h : w.Asks p) : ∃ entry, (lookUp? p).run w = (.ok entry, w) := by
  unfold lookUp?
  cases hn : hasNull p with
  | true => exact ⟨none, rfl⟩
  | false =>
      have hshort := h.resolve_left (by simp [hn])
      simp only [Bool.false_eq_true, if_false, run_bind, run_get]
      cases hfind : w.disk.find w.here p with
      | ok found => exact ⟨some found.2, rfl⟩
      | error e =>
          rcases Disk.find_error hfind with rfl | rfl | ⟨rfl, -⟩
          · exact ⟨none, rfl⟩
          · exact ⟨none, rfl⟩
          · exact (hshort hfind).elim

theorem lookUp?_of_not_asks (h : ¬ w.Asks p) :
    (lookUp? p).run w = (.error (.disk .nameTooLong p), w) := by
  unfold Workshop.Asks at h
  rw [not_or, not_not, Bool.not_eq_true] at h
  unfold lookUp?
  simp only [h.1, Bool.false_eq_true, if_false, run_bind, run_get, h.2]
  rfl

theorem isFile_of_asks (h : w.Asks p) : (isFile p).run w = (.ok (w.hasFile p), w) := by
  obtain ⟨entry, he⟩ := lookUp?_of_asks h
  have hruns : ∃ b, (isFile p).run w = (.ok b, w) := by
    unfold isFile
    rw [run_bind, he]
    cases entry with
    | none => exact ⟨_, rfl⟩
    | some e => cases e <;> exact ⟨_, rfl⟩
  obtain ⟨b, hb⟩ := hruns
  rw [hb, (isFile_ok hb).1]

theorem isFile_of_not_asks (h : ¬ w.Asks p) :
    (isFile p).run w = (.error (.disk .nameTooLong p), w) := by
  unfold isFile
  rw [run_bind, lookUp?_of_not_asks h]

theorem isFolder_of_asks (h : w.Asks p) : (isFolder p).run w = (.ok (w.hasFolder p), w) := by
  rcases isFolder_run p w with hrun | ⟨-, hrun⟩
  · exact hrun
  · obtain ⟨entry, he⟩ := lookUp?_of_asks h
    unfold isFolder at hrun
    rw [run_bind, he] at hrun
    cases entry with
    | none => cases hrun
    | some e => cases e <;> cases hrun

end Work

/-! ## The template of a fixed extension point -/

/-- Looking for the template of the extension point ends validation. -/
inductive ExtensionPoint.Stumbles (w : Workshop) (m : Module) (p : ExtensionPoint) :
    Failure → Prop where
  | kind (hfixed : p.isFixed = true) (hsource : ∀ s, p.source ≠ .str s) :
      Stumbles w m p (.misuse (.joined p.source.kind))
  | long {s : String} (hfixed : p.isFixed = true) (hsource : p.source = .str s)
      (hlong : ¬ w.Asks (m.codegenDir.child s)) :
      Stumbles w m p (.disk .nameTooLong (m.codegenDir.child s))
  | outside {s : String} (hfixed : p.isFixed = true) (hsource : p.source = .str s)
      (hasks : w.Asks (m.codegenDir.child s)) (hmissing : w.hasFile (m.codegenDir.child s) = false)
      (houtside : (m.codegenDir.child s).relativeTo? m.folder = none) :
      Stumbles w m p (.notBelow (m.codegenDir.child s) m.folder)

/-- The complaint that the template of a fixed extension point is missing, if it is. -/
def Workshop.missingTemplate? (w : Workshop) (m : Module) (p : ExtensionPoint) : Option String :=
  match p.isFixed, p.source with
  | true, .str s =>
    let source := m.codegenDir.child s
    if w.hasFile source then none
    else some (p.label ++ " template source not found: " ++
      ((source.relativeTo? m.folder).getD source).text)
  | _, _ => none

/-- The validation goes on from another one with further errors, the given complaints among
them. -/
structure Validation.Reports (v : Validation) (complaints : List String) (v' : Validation) :
    Prop where
  module : v'.module = v.module
  errors : ∃ new, v'.errors = v.errors ++ new ∧ complaints.Sublist new

namespace Validation.Reports

variable {v v₁ v₂ : Validation} {complaints complaints' : List String}

theorem refl (v : Validation) : v.Reports [] v :=
  ⟨rfl, [], (List.append_nil _).symm, .slnil⟩

theorem trans (h : v.Reports complaints v₁) (h' : v₁.Reports complaints' v₂) :
    v.Reports (complaints ++ complaints') v₂ := by
  obtain ⟨new, hnew, hsub⟩ := h.errors
  obtain ⟨new', hnew', hsub'⟩ := h'.errors
  refine ⟨h'.module.trans h.module, new ++ new', ?_, hsub.append hsub'⟩
  rw [hnew', hnew, List.append_assoc]

theorem addError (v : Validation) (text : String) : v.Reports [text] (v.addError text) :=
  ⟨rfl, [text], rfl, List.Sublist.refl _⟩

/-- What is reported besides may be passed over. -/
theorem forget (h : v.Reports complaints v₁) : v.Reports [] v₁ := by
  obtain ⟨new, hnew, -⟩ := h.errors
  exact ⟨h.module, new, hnew, List.nil_sublist _⟩

end Validation.Reports

section

variable {w : Workshop} {m : Module} {p : ExtensionPoint} {v : Validation} {f : Failure}

/-- Only absolute sources lead out of the module's folder. -/
theorem ExtensionPoint.Stumbles.isAbsolute {q base : Path} (h : p.Stumbles w m (.notBelow q base)) :
    ∃ s, p.source = .str s ∧ (Path.parse s).isAbsolute = true := by
  cases h with
  | @outside s hfixed hsource hasks hmissing houtside =>
      refine ⟨s, hsource, Decidable.by_contra fun hrelative => ?_⟩
      have hroot : (Path.parse s).root = .here := by simpa [Path.isAbsolute] using hrelative
      have hchild : m.codegenDir.child s
          = ⟨m.folder.root, (m.folder.names ++ ["codegen"]) ++ (Path.parse s).names⟩ := by
        unfold Path.child Path.join
        rw [hroot]
        rfl
      rw [hchild] at houtside
      simp [Path.relativeTo?] at houtside

theorem checkSource_of_stumbles (h : p.Stumbles w m f) :
    (checkSource m p v).run w = (.error f, w) := by
  unfold checkSource
  cases h with
  | kind hfixed hsource =>
      rw [hfixed]
      cases hs : p.source with
      | str s => exact (hsource s hs).elim
      | _ => rfl
  | long hfixed hsource hlong =>
      rw [hfixed, hsource]
      show (isFile _ >>= _).run w = _
      rw [run_bind, isFile_of_not_asks hlong]
  | outside hfixed hsource hasks hmissing houtside =>
      rw [hfixed, hsource]
      show (isFile _ >>= _).run w = _
      rw [run_bind, isFile_of_asks hasks, hmissing]
      show (belowModule m _ >>= _).run w = _
      unfold belowModule
      rw [houtside]
      rfl

theorem checkSource_reports (h : ∀ f, ¬ p.Stumbles w m f) : ∃ v',
    (checkSource m p v).run w = (.ok v', w) ∧ v.Reports (w.missingTemplate? m p).toList v' := by
  unfold checkSource Workshop.missingTemplate?
  cases hfixed : p.isFixed with
  | false => exact ⟨v, rfl, .refl v⟩
  | true =>
      cases hsource : p.source with
      | str s =>
          have hasks : w.Asks (m.codegenDir.child s) := by
            by_contra hlong
            exact h _ (.long hfixed hsource hlong)
          show ∃ v', (isFile (m.codegenDir.child s) >>= _).run w = (.ok v', w) ∧ _
          rw [run_bind, isFile_of_asks hasks]
          dsimp only
          cases hfile : w.hasFile (m.codegenDir.child s) with
          | true => exact ⟨v, rfl, .refl v⟩
          | false =>
              show ∃ v', (belowModule m (m.codegenDir.child s) >>= _).run w = (.ok v', w) ∧ _
              unfold belowModule
              cases hbelow : (m.codegenDir.child s).relativeTo? m.folder with
              | none => exact (h _ (.outside hfixed hsource hasks hfile hbelow)).elim
              | some q => exact ⟨_, rfl, .addError v _⟩
      | _ =>
          have hkind : ∀ s, p.source ≠ .str s := by simp [hsource]
          exact (h _ (.kind hfixed hkind)).elim

/-! ## One extension point after the other -/

theorem checkMode_reports (p : ExtensionPoint) (v : Validation) : v.Reports [] (checkMode p v) := by
  unfold checkMode
  split
  · exact .refl v
  · exact (Validation.Reports.addError v _).forget

theorem checkTemplates_reports (p : ExtensionPoint) (v : Validation) :
    v.Reports [] (checkTemplates p v) := by
  unfold checkTemplates
  split
  · split
    · exact .refl v
    · exact (Validation.Reports.addError v _).forget
  · exact .refl v

theorem checkVariables_reports (p : ExtensionPoint) (v : Validation) :
    v.Reports [] (checkVariables p v) := by
  unfold checkVariables
  split
  · exact ⟨rfl, [], (List.append_nil _).symm, .slnil⟩
  · exact .refl v

theorem checkPoint_of_stumbles (h : p.Stumbles w m f) (v : Validation) :
    (checkPoint m v p).run w = (.error f, w) := by
  unfold checkPoint
  rw [run_bind, checkSource_of_stumbles h]

theorem checkPoint_reports (h : ∀ f, ¬ p.Stumbles w m f) (v : Validation) : ∃ v',
    (checkPoint m v p).run w = (.ok v', w) ∧ v.Reports (w.missingTemplate? m p).toList v' := by
  obtain ⟨v₁, hrun, hsource⟩ := checkSource_reports (v := checkMode p v) h
  refine ⟨checkVariables p (checkTemplates p v₁), ?_, ?_⟩
  · unfold checkPoint
    rw [run_bind, hrun]
    rfl
  · have hbefore := (checkMode_reports p v).trans hsource
    have hafter := (checkTemplates_reports p v₁).trans (checkVariables_reports p _)
    simpa using hbefore.trans hafter

theorem checkPoints_reports : ∀ {points : List ExtensionPoint},
    (∀ p ∈ points, ∀ f, ¬ p.Stumbles w m f) → ∀ v : Validation, ∃ v',
      (points.foldlM (checkPoint m) v).run w = (.ok v', w)
        ∧ v.Reports (points.filterMap (w.missingTemplate? m)) v'
  | [], _, v => ⟨v, rfl, .refl v⟩
  | p :: points, h, v => by
      obtain ⟨hp, hpoints⟩ := List.forall_mem_cons.mp h
      obtain ⟨v₁, hrun, hreports⟩ := checkPoint_reports hp v
      obtain ⟨v₂, hruns, hrest⟩ := checkPoints_reports hpoints v₁
      refine ⟨v₂, ?_, ?_⟩
      · rw [List.foldlM_cons, run_bind, hrun]
        exact hruns
      · have hall := hreports.trans hrest
        rw [List.filterMap_cons]
        cases hmissing : w.missingTemplate? m p with
        | none => simpa [hmissing] using hall
        | some text => simpa [hmissing] using hall

/-- Validation of the points comes to an end only if none of them is stumbled over. -/
theorem checkPoints_steady : ∀ {points : List ExtensionPoint} {v v' : Validation} {w' : Workshop},
    (points.foldlM (checkPoint m) v).run w = (.ok v', w') →
      ∀ p ∈ points, ∀ f, ¬ p.Stumbles w m f
  | [], _, _, _, _ => by simp
  | p :: points, v, v', w', hrun => by
      rw [List.foldlM_cons] at hrun
      obtain ⟨v₁, w₁, hpoint, hpoints⟩ := bind_ok.mp hrun
      have hp : ∀ f, ¬ p.Stumbles w m f := by
        intro f hf
        cases (checkPoint_of_stumbles hf v).symm.trans hpoint
      obtain ⟨v₂, hp', -⟩ := checkPoint_reports hp v
      cases hp'.symm.trans hpoint
      exact List.forall_mem_cons.mpr ⟨hp, checkPoints_steady hpoints⟩

theorem checkPoints_of_stumbles {before after : List ExtensionPoint}
    (hbefore : ∀ p ∈ before, ∀ f, ¬ p.Stumbles w m f) (h : p.Stumbles w m f) (v : Validation) :
    ((before ++ p :: after).foldlM (checkPoint m) v).run w = (.error f, w) := by
  obtain ⟨v₁, hrun, -⟩ := checkPoints_reports hbefore v
  rw [List.foldlM_append, run_bind, hrun]
  show ((p :: after).foldlM (checkPoint m) v₁).run w = _
  rw [List.foldlM_cons, run_bind, checkPoint_of_stumbles h]

end

/-! ## A module folder -/

section

variable {w : Workshop} {m : Module} {folder : Path}

theorem validateLoaded_reports (hm : m.Loaded)
    (h : ∀ p ∈ m.extensionPoints, ∀ f, ¬ p.Stumbles w m f) : ∃ v,
      (validateLoaded m).run w = (.ok v, w) ∧ v.module = some m
        ∧ (m.extensionPoints.filterMap (w.missingTemplate? m)).Sublist v.errors := by
  obtain ⟨v, hpoints, hreports⟩ := checkPoints_reports h { module := some m }
  obtain ⟨new, hnew, hsub⟩ := hreports.errors
  have hsources : (isFolder m.sourceDir).run w = (.ok (w.hasFolder m.sourceDir), w) :=
    isFolder_of_asks (asks_of_not_tooLong (hm.not_tooLong_child (by decide) (by decide)))
  have hsub : (m.extensionPoints.filterMap (w.missingTemplate? m)).Sublist v.errors := by
    rw [hnew]
    exact hsub
  unfold validateLoaded
  rw [run_bind, hpoints]
  show ∃ v', (isFolder m.sourceDir >>= _).run w = (.ok v', w) ∧ _
  rw [run_bind, hsources]
  cases w.hasFolder m.sourceDir with
  | true => exact ⟨v, rfl, hreports.module, hsub⟩
  | false => exact ⟨_, rfl, hreports.module, hsub⟩

theorem validateFolder_of_not_asks (h : ¬ w.Asks folder) :
    (validateFolder folder).run w = (.error (.disk .nameTooLong folder), w) := by
  unfold validateFolder exists?
  rw [run_bind, run_bind, lookUp?_of_not_asks h]

theorem validateFolder_of_no_folder (hasks : w.Asks folder) (h : w.hasFolder folder = false) :
    ∃ text, (validateFolder folder).run w = (.ok (({} : Validation).addError text), w) := by
  obtain ⟨entry, he⟩ := lookUp?_of_asks hasks
  have hno : (isFolder folder).run w = (.ok false, w) := by rw [isFolder_of_asks hasks, h]
  unfold validateFolder exists?
  rw [run_bind, run_bind, he]
  cases entry with
  | none => exact ⟨_, rfl⟩
  | some e =>
      show ∃ text, (isFolder folder >>= _).run w = _
      rw [run_bind, hno]
      exact ⟨_, rfl⟩

/-- Once the folder is there, validation is that of its module. -/
theorem validateFolder_of_folder (hload : (loadModule folder).run w = (.ok m, w))
    (h : w.hasFolder folder = true) :
    (validateFolder folder).run w = (validateLoaded m).run w := by
  have hasks := asks_of_hasFolder h
  have hyes : (isFolder folder).run w = (.ok true, w) := by rw [isFolder_of_asks hasks, h]
  obtain ⟨entry, he⟩ := lookUp?_of_asks hasks
  unfold validateFolder exists?
  rw [run_bind, run_bind, he]
  cases entry with
  | none =>
      unfold isFolder at hyes
      rw [run_bind, he] at hyes
      cases hyes
  | some e =>
      show (isFolder folder >>= _).run w = _
      rw [run_bind, hyes]
      show (loadOrMessage folder >>= _).run w = _
      rw [run_bind, loadOrMessage_of_loads hload]

/-- A module that can be loaded is validated, and each missing template reported in turn, unless
the folder cannot be asked about or a template is stumbled over, the first one deciding how. -/
theorem validateFolder_reports (hload : (loadModule folder).run w = (.ok m, w)) :
    ((∃ v, (validateFolder folder).run w = (.ok v, w)) ↔ w.Asks folder
        ∧ (w.hasFolder folder = true → ∀ p ∈ m.extensionPoints, ∀ f, ¬ p.Stumbles w m f))
      ∧ (∀ v w', (validateFolder folder).run w = (.ok v, w') → w' = w
        ∧ (w.hasFolder folder = true → v.module = some m
          ∧ (m.extensionPoints.filterMap (w.missingTemplate? m)).Sublist v.errors)
        ∧ (w.hasFolder folder = false → ∃ text, v = ({} : Validation).addError text))
      ∧ ∀ before p after f, w.hasFolder folder = true →
        m.extensionPoints = before ++ p :: after → (∀ q ∈ before, ∀ f, ¬ q.Stumbles w m f) →
          p.Stumbles w m f → (validateFolder folder).run w = (.error f, w) := by
  by_cases hasks : w.Asks folder
  · cases hthere : w.hasFolder folder with
    | false =>
        obtain ⟨text, hrun⟩ := validateFolder_of_no_folder hasks hthere
        refine ⟨⟨fun _ => ⟨hasks, nofun⟩, fun _ => ⟨_, hrun⟩⟩, fun v w' hv => ?_, ?_⟩
        · cases hrun.symm.trans hv
          exact ⟨rfl, nofun, fun _ => ⟨text, rfl⟩⟩
        · exact fun _ _ _ _ hno => (Bool.false_ne_true hno).elim
    | true =>
        rw [validateFolder_of_folder hload hthere]
        have hsteady : ∀ v w', (validateLoaded m).run w = (.ok v, w') →
            ∀ p ∈ m.extensionPoints, ∀ f, ¬ p.Stumbles w m f := by
          intro v w' hv
          obtain ⟨v₁, w₁, hpoints, -⟩ := bind_ok.mp hv
          exact checkPoints_steady hpoints
        refine ⟨⟨?_, ?_⟩, fun v w' hv => ?_, ?_⟩
        · rintro ⟨v, hv⟩
          exact ⟨hasks, fun _ => hsteady v w hv⟩
        · rintro ⟨-, hnone⟩
          obtain ⟨v, hv, -⟩ := validateLoaded_reports ⟨folder, w, w, hload⟩ (hnone rfl)
          exact ⟨v, hv⟩
        · obtain ⟨v', hv', hmodule, hsub⟩ :=
            validateLoaded_reports ⟨folder, w, w, hload⟩ (hsteady v w' hv)
          cases hv'.symm.trans hv
          exact ⟨rfl, fun _ => ⟨hmodule, hsub⟩, nofun⟩
        · intro before p after f _ hpoints hbefore hp
          unfold validateLoaded
          rw [run_bind, hpoints, checkPoints_of_stumbles hbefore hp]
  · have hrun := validateFolder_of_not_asks hasks
    refine ⟨⟨?_, fun h => (hasks h.1).elim⟩, fun v w' hv => ?_, ?_⟩
    · rintro ⟨v, hv⟩
      cases hrun.symm.trans hv
    · cases hrun.symm.trans hv
    · exact fun _ _ _ _ hthere => (hasks (asks_of_hasFolder hthere)).elim

end

/-! ### A lid in a box, with no template for it -/

/-- The declaration of a module with one fixed extension point; `source` is the JSON text of the
name of its template. -/
def lidDeclaration (source : String) : ByteArray :=
  ("\x7b\"Name\":\"Box\",\"ModuleExtensionDefinition\":[\x7b\"Name\":\"Lid\",\"CodeGenSource\":" ++
    source ++ ",\"CodeGenDestination\":\"Lid.h\"\x7d]\x7d").toUTF8

def lidShop (source : String) : Workshop := boxShop (lidDeclaration source)

/-- The errors of the validation, or that it fails, once the module is loaded. -/
def boxErrors : Work (Option (List String)) := do
  let m ← loadModule boxFolder
  tryCatch (do return some (← validateLoaded m).errors) fun _ => pure none

theorem of_boxErrors {w : Workshop} {errors : Option (List String)}
    (hthere : w.hasFolder boxFolder = true) (h : (boxErrors.run w).1.toOption = some errors) :
    ∃ m, (loadModule boxFolder).run w = (.ok m, w)
      ∧ errors = ((validateFolder boxFolder).run w).1.toOption.map (·.errors) := by
  obtain ⟨m, w₁, hload, htry⟩ := bind_ok.mp (run_of_result h)
  obtain rfl := unchanged_of_keeping (keeping_loadModule _) hload
  refine ⟨m, hload, ?_⟩
  rw [validateFolder_of_folder hload hthere]
  rw [run_tryCatch, run_bind] at htry
  cases hrun : (validateLoaded m).run w₁ with
  | mk result w' =>
      rw [hrun] at htry
      cases result with
      | ok v =>
          cases htry
          rfl
      | error f =>
          cases htry
          rfl

theorem crashes_of_boxErrors {w : Workshop} (hthere : w.hasFolder boxFolder = true)
    (h : (boxErrors.run w).1.toOption = some none) :
    (∃ m, (loadModule boxFolder).run w = (.ok m, w))
      ∧ ∃ f w', (validateFolder boxFolder).run w = (.error f, w') := by
  obtain ⟨m, hload, hnone⟩ := of_boxErrors hthere h
  cases hrun : (validateFolder boxFolder).run w with
  | mk result w' =>
      rw [hrun] at hnone
      cases result with
      | ok v => cases hnone
      | error f => exact ⟨⟨m, hload⟩, f, w', rfl⟩

/-- Modules that load, and that validation fails on: the template is at an absolute path and not
there, or it is a number. -/
theorem validateFolder_crashes_lid :
    ((∃ m, (loadModule boxFolder).run (lidShop "\"/Lid.h\"") = (.ok m, lidShop "\"/Lid.h\""))
        ∧ ∃ f w', (validateFolder boxFolder).run (lidShop "\"/Lid.h\"") = (.error f, w'))
      ∧ (∃ m, (loadModule boxFolder).run (lidShop "5") = (.ok m, lidShop "5"))
        ∧ ∃ f w', (validateFolder boxFolder).run (lidShop "5") = (.error f, w') :=
  ⟨crashes_of_boxErrors rfl (by decide +kernel), crashes_of_boxErrors rfl (by decide +kernel)⟩

theorem validateFolder_reports_lid : ∃ m v,
    (loadModule boxFolder).run (lidShop "\"Lid.h\"") = (.ok m, lidShop "\"Lid.h\"")
      ∧ (validateFolder boxFolder).run (lidShop "\"Lid.h\"") = (.ok v, lidShop "\"Lid.h\"")
      ∧ v.module = some m
      ∧ v.errors = ["Extension point 'Lid' template source not found: codegen/Lid.h"] := by
  have hthere : (lidShop "\"Lid.h\"").hasFolder boxFolder = true := rfl
  have hprobe : (boxErrors.run (lidShop "\"Lid.h\"")).1.toOption
      = some (some ["Extension point 'Lid' template source not found: codegen/Lid.h"]) := by
    decide +kernel
  obtain ⟨m, hload, herrors⟩ := of_boxErrors hthere hprobe
  obtain ⟨v, hv, hsame⟩ := Option.map_eq_some_iff.mp herrors.symm
  have hrun := run_of_result hv
  obtain ⟨-, hreports, -⟩ := validateFolder_reports hload
  obtain ⟨hw, hfolder, -⟩ := hreports v _ hrun
  rw [hw] at hrun
  exact ⟨m, v, hload, hrun, (hfolder hthere).1, hsame⟩

end PatchForge
