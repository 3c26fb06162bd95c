import PatchForge.Declaration.Reader
import PatchForge.Proofs.Basic

/-!
# What a module takes from its declaration

A module that was read has its name and its capabilities from fields of
the declaration, each turned into texts in its own way: the name is the
text of its field, the lists keep the texts of their items, and the
exported capability stays the value that it is (`moduleOfFields_ok`).
-/

namespace PatchForge.Declaration

variable {fields : Dict String Json} {declaration v : Json} {folder : Path} {m : Module}

/-- The capabilities of a module are those of the fields it was read from. -/
structure Declares (fields : Dict String Json) (folder : Path) (m : Module) : Prop where
  named : (Json.fieldOrNull fields "Name").present = true
  name : m.name = (Json.fieldOrNull fields "Name").text
  folder : m.folder = folder
  exported : m.exported = if (Json.fieldOrNull fields "APIId").present
    then some (Json.fieldOrNull fields "APIId") else none
  required : textsOf (Json.fieldOrNull fields "ModuleDependancies") = .ok m.required
  optional : textsOf (Json.fieldOrNull fields "ModuleOptionalDependancies") = .ok m.optional

theorem moduleOfFields_ok (h : moduleOfFields fields folder = .ok m) :
    Declares fields folder m := by
  unfold moduleOfFields at h
  dsimp only at h
  split at h
  · cases h
  · rename_i hnamed
    obtain ⟨entries, -, h⟩ := Result.bind_ok.mp h
    obtain ⟨points, -, h⟩ := Result.bind_ok.mp h
    obtain ⟨games, -, h⟩ := Result.bind_ok.mp h
    obtain ⟨required, hrequired, h⟩ := Result.bind_ok.mp h
    obtain ⟨optional, hoptional, h⟩ := Result.bind_ok.mp h
    obtain ⟨flags, -, h⟩ := Result.bind_ok.mp h
    obtain ⟨data, -, h⟩ := Result.bind_ok.mp h
    cases h
    exact ⟨by simpa using hnamed, rfl, rfl, rfl, hrequired, hoptional⟩

theorem moduleOf_ok (h : moduleOf declaration folder = .ok m) :
    ∃ fields, declaration = .obj fields ∧ Declares fields folder m := by
  unfold moduleOf at h
  split at h
  · exact ⟨_, rfl, moduleOfFields_ok h⟩
  · cases h

theorem fieldOrNull_of_field {name : String} (h : Json.field? (.obj fields) name = some v) :
    Json.fieldOrNull fields name = v := by
  rw [Json.field?] at h
  rw [Json.fieldOrNull, h, Option.getD_some]

end PatchForge.Declaration
