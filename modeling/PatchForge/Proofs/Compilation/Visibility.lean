import PatchForge.Proofs.Compilation.Folders
import PatchForge.Proofs.Grants.Generation

/-!
# Who sees whose headers

After generation the include folder of one module is on the list of
another for one of three reasons, and for no other (`SeesHeaders`): they
are one module; the first exports a capability that the second resolved
to, and its folder is there; or the first brought a header to an
extension point of the second that writes files.

What links generation to compilation is the table of grants. It is keyed
by names of extension points, so the statement needs that a checked set
gives no name twice, and it speaks of folders, so modules must lie in
folders of their own.
-/

namespace PatchForge

open Work Compilation

/-- Why the sources of `m`, which resolved to `ids`, may include the headers of `x`. -/
def SeesHeaders (w : Workshop) (ids : List String) (m x : Module) : Prop :=
  x = m
  ∨ (∃ id ∈ ids, x.exports id = true) ∧ w.hasFolder x.includeDir = true
  ∨ ∃ p ∈ m.extensionPoints, p.Generates ∧ ExtensionPoint.includeVariable ∈ p.slots
      ∧ ∃ r ∈ x.contributions p.name, Dict.contains r ExtensionPoint.includeVariable = true

section

variable {modules : List Module} (hset : Capability.checkSet modules = .ok ())
  (hfolders : (modules.map (·.folder)).Nodup)

include hset hfolders

/-- The grants that a module has after generation are the folders of those that brought a
header to an extension point of it. -/
theorem includeDir_mem_forModule {verbose : Bool} {w w' : Workshop} {g : Generation}
    (hrun : (generateAfresh modules verbose).run w = (.ok g, w')) {m x : Module}
    (hm : m ∈ modules) (hx : x ∈ modules) :
    x.includeDir ∈ w'.grants.forModule m ↔
      ∃ p ∈ m.extensionPoints, p.Generates ∧ p.receivesHeader x = true := by
  obtain ⟨-, hnames⟩ := Capability.checkSet_ok hset
  rw [IncludeTable.mem_forModule]
  simp only [mem_grants_generateAfresh hrun]
  constructor
  · rintro ⟨p, hp, m', hm', p', hp', hmode, hname, y, hy, hreceives, hdir⟩
    obtain rfl : p = p' := Capability.point_of_name hnames hm hm' hp hp' hname
    obtain rfl : y = x := List.inj_on_of_nodup_map hfolders hy hx (includeDir_inj.mp hdir)
    exact ⟨p, hp, hmode, hreceives⟩
  · rintro ⟨p, hp, hmode, hreceives⟩
    exact ⟨p, hp, m, hm, p, hp, hmode, rfl, x, hx, hreceives, rfl⟩

/-- The exporters' folders hold the include folder of a module exactly if it is there and the
module exports what was resolved. -/
theorem includeDir_mem_exported {e : Module × List Module}
    (he : e ∈ Capability.withOthers modules) {ids : List String}
    (hids : Capability.resolve e.2 e.1 = .ok ids) {exporters : List Module}
    (hexporters : Capability.exportersFor e.2 e.1 = .ok exporters) {w : Workshop} {x : Module}
    (hx : x ∈ modules) (hne : x ≠ e.1) :
    x.includeDir ∈ exportedFolders w exporters ↔
      (∃ id ∈ ids, x.exports id = true) ∧ w.hasFolder x.includeDir = true := by
  have hsub := Capability.others_sublist he
  have hapart := (Capability.checkSet_ok hset).1.sublist hsub
  have hmem : (∃ y ∈ exporters, x.folder = y.folder) ↔ ∃ id ∈ ids, x.exports id = true := by
    constructor
    · rintro ⟨y, hy, hfolder⟩
      obtain ⟨hy, hexports⟩ := (Capability.mem_exportersFor hexporters hapart hids).mp hy
      obtain rfl : x = y :=
        List.inj_on_of_nodup_map hfolders hx (hsub.subset hy) hfolder
      exact hexports
    · intro hexports
      have hother := (Capability.eq_or_mem_others he hx).resolve_left hne
      exact ⟨x, (Capability.mem_exportersFor hexporters hapart hids).mpr ⟨hother, hexports⟩, rfl⟩
  rw [includeDir_mem_exportedFolders, hmem, and_comm]

end

/-- **Headers.** In a checked set of modules that lie in folders of their own, none of them the
toolchain's, a module that resolves is compiled, after a fresh generation, with the include
folders of exactly those modules whose headers it sees. No folder is listed twice. The list can
only be refused for the path of a folder that is too long, and no module that was loaded has
one. Generating again with the same grants grants nothing new. -/
theorem includeFolders_headers {c : Compilation} {verbose : Bool} {w w' : Workshop}
    {g : Generation} (hset : Capability.checkSet c.modules = .ok ())
    (hfolders : (c.modules.map (·.folder)).Nodup)
    (htoolchain : ∀ m ∈ c.modules, m.folder ≠ c.toolchain.folder)
    (hrun : (generateAfresh c.modules verbose).run w = (.ok g, w')) :
    (∀ e ∈ Capability.withOthers c.modules, ∀ ids, Capability.resolve e.2 e.1 = .ok ids →
        (∃ dirs, (c.includeFolders e.1 e.2).run w' = (.ok dirs, w') ∧ dirs.Nodup
          ∧ ∀ x ∈ c.modules, x.includeDir ∈ dirs ↔ SeesHeaders w' ids e.1 x)
        ∨ ∃ x ∈ c.modules, ¬ x.Loaded ∧ ∃ p, (p = x.includeDir ∨ p = x.codebuildExportDir)
          ∧ p.TooLong ∧ (c.includeFolders e.1 e.2).run w' = (.error (.disk .nameTooLong p), w'))
      ∧ ∀ verbose₂ w₂, w₂.grants = w'.grants →
          ((generateAll c.modules verbose₂).run w₂).2.grants = w'.grants := by
  constructor
  · intro e he ids hids
    have hm := Capability.mem_of_withOthers he
    obtain ⟨exporters, hexporters⟩ := Capability.exportersFor_of_resolve hids
    rcases includeFolders_run c e.1 e.2 w' with ⟨found, hfound, hdirs⟩ | ⟨f, hfault, hfails⟩
    · obtain rfl : found = exporters := Except.ok.inj (hfound.symm.trans hexporters)
      refine Or.inl ⟨_, hdirs, nodup_foldersOf, fun x hx => ?_⟩
      have hown : x.folder = e.1.folder ↔ x = e.1 :=
        ⟨fun h => List.inj_on_of_nodup_map hfolders hx hm h, fun h => h ▸ rfl⟩
      rw [mem_foldersOf, includeDir_eq_toolchain, includeDir_mem_ownFolders, hown,
        includeDir_mem_forModule hset hfolders hrun hm hx, SeesHeaders]
      simp only [ExtensionPoint.receivesHeader_iff, htoolchain x hx, false_or]
      by_cases hself : x = e.1
      · simp only [hself, true_or]
      · rw [includeDir_mem_exported hset hfolders he hids hexporters hx hself]
    · obtain ⟨x, hx, hnever, p, hp, hlong, rfl⟩ := hfault.tooLong hexporters
      exact Or.inr ⟨x, (Capability.others_sublist he).subset hx, hnever, p, hp, hlong, hfails⟩
  · intro verbose₂ w₂ hgrants
    refine keeps_grants (fun m hm p hp hmode x hx hreceives => ?_) hgrants
    exact (mem_grants_generateAfresh hrun).mpr
      ⟨m, hm, p, hp, hmode, rfl, x, hx, hreceives, rfl⟩

/-! ### A gallery that needs a header, a library, and a module beside them -/

/-- A file with one line for every header brought to it. -/
def galleryPoint : ExtensionPoint :=
  { (default : ExtensionPoint) with
    name := "Gallery"
    source := .str "Gallery.h"
    destination := .str "codebuild/Gallery.h"
    slots := ["Include"]
    placeholders := [⟨"Gallery", "#include <\x7b0\x7d>"⟩] }

def galleryOwner : Module :=
  { (default : Module) with
    name := "Owner"
    folder := ⟨.top, ["Owner"]⟩
    required := ["Library"]
    extensionPoints := [galleryPoint] }

theorem present_library : (some (Json.str "Library")).all Json.present = true := by decide

def galleryLibrary : Module :=
  { (default : Module) with
    name := "Library"
    folder := ⟨.top, ["Library"]⟩
    exported := some (.str "Library")
    exported_present := present_library }

def galleryWriter : Module :=
  { (default : Module) with
    name := "Writer"
    folder := ⟨.top, ["Writer"]⟩
    data := [("Gallery", [[("Include", "Writer.h")]])] }

def galleryBystander : Module :=
  { (default : Module) with name := "Bystander", folder := ⟨.top, ["Bystander"]⟩ }

def galleryCompilation : Compilation :=
  ⟨⟨⟨.top, ["Tools"]⟩⟩, "USA", [galleryOwner, galleryLibrary, galleryWriter, galleryBystander]⟩

def galleryShop : Workshop :=
  { (default : Workshop) with
    disk := ⟨[(["Owner"], .folder), (["Owner", "codegen"], .folder),
      (["Owner", "codegen", "Gallery.h"], .file "\x7b\x7bGallery\x7d\x7d".toUTF8),
      (["Library"], .folder), (["Library", "include"], .folder),
      (["Bystander"], .folder), (["Bystander", "include"], .folder)]⟩ }

theorem includeFolders_headers_gallery :
    ∃ g w', (generateAfresh galleryCompilation.modules false).run galleryShop = (.ok g, w')
      ∧ (∃ dirs, (galleryCompilation.includeFolders galleryOwner
            [galleryLibrary, galleryWriter, galleryBystander]).run w' = (.ok dirs, w') ∧ dirs.Nodup
          ∧ galleryOwner.includeDir ∈ dirs ∧ galleryLibrary.includeDir ∈ dirs
          ∧ galleryWriter.includeDir ∈ dirs ∧ galleryBystander.includeDir ∉ dirs)
      ∧ ((generateAll galleryCompilation.modules false).run w').2.grants = w'.grants := by
  have hset : (Capability.checkSet galleryCompilation.modules).toOption = some () := by
    decide +kernel
  have hids : (Capability.resolve [galleryLibrary, galleryWriter, galleryBystander]
      galleryOwner).toOption = some ["Library"] := by
    decide +kernel
  have hresult : ((generateAfresh galleryCompilation.modules false).run galleryShop).1.toOption
      = some ⟨[⟨.top, ["Owner", "codebuild", "Gallery.h"]⟩], 1⟩ := by
    decide +kernel
  have hlibrary : ((generateAfresh galleryCompilation.modules false).run
      galleryShop).2.hasFolder galleryLibrary.includeDir = true := by
    decide +kernel
  have hfound : ((galleryCompilation.includeFolders galleryOwner
      [galleryLibrary, galleryWriter, galleryBystander]).run
      ((generateAfresh galleryCompilation.modules false).run galleryShop).2).1.toOption.isSome
        = true := by
    decide +kernel
  -- what follows knows of the workshop then only what was computed
  cases hrun : (generateAfresh galleryCompilation.modules false).run galleryShop with
  | mk result w' =>
      rw [hrun] at hresult hlibrary hfound
      obtain rfl := Result.toOption_some.mp hresult
      obtain ⟨hsees, hagain⟩ := includeFolders_headers (Result.toOption_some.mp hset)
        (by decide +kernel) (by decide +kernel) hrun
      refine ⟨_, w', rfl, ?_, hagain false w' rfl⟩
      have he : (galleryOwner, [galleryLibrary, galleryWriter, galleryBystander])
          ∈ Capability.withOthers galleryCompilation.modules := List.mem_cons_self ..
      rcases hsees _ he _ (Result.toOption_some.mp hids) with ⟨dirs, hdirs, hnodup, hmem⟩
        | ⟨_, -, -, p, -, -, hfails⟩
      · refine ⟨dirs, hdirs, hnodup, ?_, ?_, ?_, ?_⟩
        · exact (hmem galleryOwner (by simp [galleryCompilation])).mpr (Or.inl rfl)
        · exact (hmem galleryLibrary (by simp [galleryCompilation])).mpr
            (Or.inr (Or.inl ⟨by decide, hlibrary⟩))
        · refine (hmem galleryWriter (by simp [galleryCompilation])).mpr (Or.inr (Or.inr ?_))
          exact ⟨galleryPoint, List.mem_singleton.mpr rfl, by decide, by decide, by decide⟩
        · rw [hmem galleryBystander (by simp [galleryCompilation])]
          rintro (hself | ⟨hexports, -⟩ | ⟨p, -, -, -, r, hr, -⟩)
          · exact absurd (congrArg Module.name hself) (by decide)
          · exact absurd hexports (by decide)
          · exact absurd hr List.not_mem_nil
      · rw [hfails] at hfound
        cases hfound

end PatchForge
