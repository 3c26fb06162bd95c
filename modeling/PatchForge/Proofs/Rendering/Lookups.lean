import PatchForge.Proofs.Format.Parts
import PatchForge.Proofs.Rendering.Values

/-!
# Fields that look further than the record

A format of an extension point is meant to name the texts of a record by
their numbers. Nothing keeps a format from looking further: `{0[0]}`
asks for a character of the first text and `{0.upper}` for a member that
texts have. Such a field is refused if there is no such thing, and not
otherwise (`formatRecord_lookups`). For a character this depends on what
the record holds, so one format may be refused for one record and
accepted for the next.
-/

namespace PatchForge

open Format

section

variable {template point : String} {record : List String}

/-- A format that is refused is named in the report, and so is the extension point. -/
theorem formatRecord_refused (h : ¬ ∃ text, formatRecord template record point = .ok text) :
    ∃ cause, formatRecord template record point = .error (.format template point cause) := by
  rw [formatRecord] at h ⊢
  cases happly : applyFormat template record with
  | error cause => exact ⟨cause, rfl⟩
  | ok text =>
      rw [happly] at h
      exact (h ⟨text, rfl⟩).elim

theorem formatRecord_apply {text : String} : formatRecord template record point = .ok text
    ↔ apply template.toList (record.map String.toList) = .ok text.toList := by
  rw [formatRecord_ok, applyFormat, Result.map_ok]
  constructor
  · rintro ⟨cs, hcs, rfl⟩
    rwa [String.toList_ofList]
  · exact fun h => ⟨text.toList, h, String.ofList_toList⟩

/-- A format that is no template is refused. -/
theorem formatRecord_unreadable {fault : Fault} (h : (read template.toList).fault = some fault) :
    ¬ ∃ text, formatRecord template record point = .ok text := by
  rintro ⟨text, htext⟩
  obtain ⟨result, hresult, -⟩ := Result.map_ok.mp (formatRecord_apply.mp htext)
  rw [(fill_of_applyAt hresult).1] at h
  cases h

theorem getElem?_toList {i : Nat} {cs : List Char}
    (h : (record.map String.toList)[i]? = some cs) : ∃ s, record[i]? = some s ∧ s.toList = cs := by
  rwa [List.getElem?_map, Option.map_eq_some_iff] at h

/-- Where a format is accepted, the first lookup of a field has found what it asks for. -/
theorem formatRecord_finds {f : Field} {text : String} (hf : Holds template.toList f)
    (hsign : ∃ c ∈ f.name, beginsLookup c = true)
    (h : formatRecord template record point = .ok text) :
    ∃ i s l, Begins f.name i ∧ record[i]? = some s ∧ (lookupsOf f.name).1.head? = some l
      ∧ Finds s.toList l := by
  obtain ⟨i, cs, l, hbegins, hcs, hfirst, hfinds⟩ :=
    finds_of_apply hf hsign (formatRecord_apply.mp h)
  obtain ⟨s, hs, rfl⟩ := getElem?_toList hcs
  exact ⟨i, s, l, hbegins, hs, hfirst, hfinds⟩

/-! ## Formats of literals and lookups -/

theorem formatRecord_parts {parts : List Part} {text : String}
    (h : ∀ i ls, .slot i ls ∈ parts → ∀ l ∈ ls, l.Legible) :
    formatRecord (String.ofList (writtenParts parts)) record point = .ok text
      ↔ filledParts (record.map String.toList) parts = .ok text.toList := by
  rw [formatRecord_apply, String.toList_ofList, apply_writtenParts h]

theorem formatRecord_parts_ok {parts : List Part}
    (h : ∀ i ls, .slot i ls ∈ parts → ∀ l ∈ ls, l.Legible) :
    (∃ text, formatRecord (String.ofList (writtenParts parts)) record point = .ok text)
      ↔ ∀ i ls, .slot i ls ∈ parts →
          ∃ operand, reached (record.map String.toList) i ls = .ok operand := by
  rw [← filledParts_ok]
  constructor
  · rintro ⟨text, htext⟩
    exact ⟨text.toList, (formatRecord_parts h).mp htext⟩
  · rintro ⟨cs, hcs⟩
    refine ⟨String.ofList cs, (formatRecord_parts h).mpr ?_⟩
    rw [hcs, String.toList_ofList]

/-- One lookup is accepted exactly if there is a text under the number that has what it asks
for. -/
theorem formatRecord_lookup {i : Nat} {l : Lookup} (hl : l.Legible) :
    (∃ text, formatRecord (String.ofList (writtenParts [.slot i [l]])) record point = .ok text)
      ↔ i ≤ numberLimit ∧ ∃ s, record[i]? = some s ∧ Finds s.toList l := by
  have hlegible : ∀ j ls, Part.slot j ls ∈ [Part.slot i [l]] → ∀ l ∈ ls, l.Legible := by
    intro j ls hmem
    cases List.mem_singleton.mp hmem
    exact List.forall_mem_singleton.mpr hl
  have hone : (∀ j ls, Part.slot j ls ∈ [Part.slot i [l]] →
        ∃ operand, reached (record.map String.toList) j ls = .ok operand)
      ↔ ∃ operand, reached (record.map String.toList) i [l] = .ok operand := by
    simp
  rw [formatRecord_parts_ok hlegible, hone, reached_one]
  refine and_congr_right fun _ => ?_
  constructor
  · rintro ⟨cs, hcs, hfinds⟩
    obtain ⟨s, hs, rfl⟩ := getElem?_toList hcs
    exact ⟨s, hs, hfinds⟩
  · rintro ⟨s, hs, hfinds⟩
    exact ⟨s.toList, by rw [List.getElem?_map, hs]; rfl, hfinds⟩

end

/-- The lookup of a text's first character. -/
def initial : Lookup := .index ['0']

/-- The field of this lookup in the first text. -/
def initialField : Field := ⟨fieldName 0 [initial], none, [], false⟩

end PatchForge
