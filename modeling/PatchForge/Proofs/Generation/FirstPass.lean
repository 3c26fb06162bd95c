import PatchForge.Proofs.Generation.Templated
import PatchForge.Proofs.Rendering.FirstSeen

/-!
# The first pass over a templated extension point

Which files a templated extension point is to give is found out before
any of them is made: the lists of templates are compared, and then every
record is put into its groups. This pass can fail at the last record of
the last module, and still there is nothing to take back, since the files
come after the last group and the file of a fixed mode comes after them
(`generatePoint_firstPass`). Only the include folders are granted before
the records are grouped, and after the lists are compared.

The failure is that of the first visit that grouping cannot take
(`BreaksAt`), so it names one of the formats and a record to which this
format does not apply.
-/

namespace PatchForge

open Work

/-- After the visits before, the destination format of the visit does not apply; or the visit
would be the first to its destination, and its source format does not apply. -/
def BreaksAt (point : String) (before : List Visit) (v : Visit) (fault : RenderFault) : Prop :=
  (∃ cause, applyFormat v.2.2 v.1 = .error cause ∧ fault = .format v.2.2 point cause)
    ∨ ∃ d cause, Reaches v d ∧ (∀ u ∈ before, ¬ Reaches u d)
      ∧ applyFormat v.2.1 v.1 = .error cause ∧ fault = .format v.2.1 point cause

/-- Grouping fails by the first visit that it cannot take. -/
theorem groups_breaksAt {point : String} {pairs : List (String × String)}
    {contributions : List Contribution} {fault : RenderFault}
    (h : groups point pairs contributions = .error fault) :
    ∃ before v after, visits pairs contributions = before ++ v :: after
      ∧ (∀ u ∈ before, ∃ d, Reaches u d) ∧ BreaksAt point before v fault := by
  obtain ⟨before, v, after, gs, hvisits, hbefore, hbroken⟩ := groupFrom_broken h
  obtain ⟨-, hall, -⟩ := groupFrom_ok hbefore List.nodup_nil
  refine ⟨before, v, after, hvisits, hall, hbroken.imp_right ?_⟩
  rintro ⟨d, cause, hd, hmissing, hcause, hfault⟩
  exact ⟨d, cause, hd, (groupFrom_missing hbefore hmissing).2, hcause, hfault⟩

section

variable {modules : List Module} {m : Module} {p : ExtensionPoint}
  {sources destinations : List String}

theorem pointActs_templated (hs : p.templateSources = some sources)
    (hd : p.templateDestinations = some destinations) : pointActs modules m p
      = templatedActs modules m p sources destinations
        ++ if p.isFixed then fixedActs modules m p else [] := by
  rw [pointActs, hs, hd]

theorem generatePoint_uneven (hs : p.templateSources = some sources)
    (hd : p.templateDestinations = some destinations)
    (hlength : sources.length ≠ destinations.length) (w : Workshop) :
    (generatePoint modules m p).run w
      = (.error (.unevenTemplates p.name m.name sources.length destinations.length), w) := by
  rw [performs_generatePoint, pointActs_templated hs hd, templatedActs, if_pos hlength]
  rfl

theorem generatePoint_ungrouped (hs : p.templateSources = some sources)
    (hd : p.templateDestinations = some destinations)
    (hlength : sources.length = destinations.length) {fault : RenderFault}
    (hgroups : groups p.name p.formatPairs (p.contributions modules) = .error fault)
    (w : Workshop) :
    (generatePoint modules m p).run w
      = (.error (.render fault), { w with grants := p.grant modules w.grants }) := by
  rw [performs_generatePoint, pointActs_templated hs hd, templatedActs,
    if_neg (not_not.mpr hlength), hgroups]
  rfl

/-- A destination format that does not apply to a record makes a visit that comes nowhere. -/
theorem exists_visit (hlength : sources.length = destinations.length)
    {contributions : List Contribution} {d : String} {r : List String} (hd : d ∈ destinations)
    (hr : r ∈ contributions.flatMap (·.records)) :
    ∃ s, (r, s, d) ∈ visits (sources.zip destinations) contributions := by
  obtain ⟨i, hi, rfl⟩ := List.mem_iff_getElem.mp hd
  have hboth : i < (sources.zip destinations).length := by
    rw [List.length_zip]
    omega
  have hpair : (sources[i], destinations[i]) ∈ sources.zip destinations := by
    rw [← List.getElem_zip (h := hboth)]
    exact List.getElem_mem hboth
  exact ⟨sources[i], List.mem_flatMap.mpr ⟨r, hr, List.mem_map.mpr ⟨_, hpair, rfl⟩⟩⟩

end

/-! ### A poster for each hall -/

/-- A file for each initial of a hall, and one for all halls. -/
def posterPoint (destinations : List String) : ExtensionPoint :=
  { (default : ExtensionPoint) with
    name := "Poster"
    slots := ["Name", "Hall"]
    templateSources := some ["Poster.h"]
    templateDestinations := some destinations
    source := .str "Poster.h"
    destination := .str "Poster.h" }

def posterModule (name : String) (concerts : List Record) : Module :=
  { (default : Module) with
    name := name
    folder := ⟨.top, [name]⟩
    data := [("Poster", concerts)] }

/-- The last record of the last module names no hall. -/
def posterModules : List Module :=
  [posterModule "Spring" [[("Name", "Opening"), ("Hall", "North")]],
    posterModule "Autumn" [[("Name", "Harvest"), ("Hall", "South")], [("Name", "Closing")]]]

def posterShop : Workshop :=
  { (default : Workshop) with
    disk := ⟨[(["Spring"], .folder), (["Spring", "codegen"], .folder),
      (["Spring", "codegen", "Poster.h"], .file "new".toUTF8),
      (["Spring", "Poster.h"], .file "old".toUTF8)]⟩ }

end PatchForge
