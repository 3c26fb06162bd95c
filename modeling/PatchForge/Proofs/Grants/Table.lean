import PatchForge.Contribution
import PatchForge.Proofs.Basic

/-!
# Grants in the table

The table is seen through `get`: which folders an extension point has.
One grant adds one folder to one extension point (`mem_get_add`), and
what an extension point receives from the modules follows by induction
over them (`mem_get_grant`).

A grant that the table holds already changes nothing, the table itself
included (`grant_of_granted`). This is what makes gathering twice, or
generating again, harmless.
-/

namespace PatchForge

namespace Dict

variable {α β : Type} [BEq α]

/-- Writing the value that a key has changes nothing. -/
theorem set_of_get? {key : α} {value : β} : ∀ {d : Dict α β},
    d.get? key = some value → d.set key value = d
  | [], h => by cases h
  | (k, v) :: d, h => by
      rw [get?_cons] at h
      rw [set]
      split at h
      · rename_i hk
        cases h
        rw [if_pos hk]
      · rename_i hk
        rw [if_neg hk, set_of_get? h]

end Dict

namespace IncludeTable

variable {t : IncludeTable} {point other : String} {folder q : Path}

/-! ## Lists of folders -/

theorem mem_appendNew {new paths : List Path} :
    q ∈ appendNew paths new ↔ q ∈ paths ∨ q ∈ new := mem_foldl_addNew

theorem nodup_appendNew {new paths : List Path} (h : paths.Nodup) :
    (appendNew paths new).Nodup := nodup_foldl_addNew h

/-- The folders of a module are those of its extension points. -/
theorem mem_forModule {m : Module} :
    q ∈ t.forModule m ↔ ∃ p ∈ m.extensionPoints, q ∈ t.get p.name := by
  have hfrom : ∀ (points : List ExtensionPoint) (paths : List Path),
      q ∈ points.foldl (fun acc p => appendNew acc (t.get p.name)) paths
        ↔ q ∈ paths ∨ ∃ p ∈ points, q ∈ t.get p.name := by
    intro points
    induction points with
    | nil => simp
    | cons p points ih =>
        intro paths
        rw [List.foldl_cons, ih, mem_appendNew, or_assoc]
        simp only [List.mem_cons, exists_eq_or_imp]
  rw [forModule, hfrom]
  simp

/-! ## One grant -/

theorem mem_get_add :
    q ∈ (t.add point folder).get other ↔ q ∈ t.get other ∨ other = point ∧ q = folder := by
  rw [get_add]
  by_cases ho : other = point
  · subst ho
    rw [if_pos rfl, isNew]
    by_cases hthere : (t.get other).contains folder
    · rw [hthere]
      constructor
      · exact Or.inl
      · rintro (h | ⟨-, rfl⟩)
        · exact h
        · exact List.contains_iff_mem.mp hthere
    · rw [Bool.eq_false_iff.mpr hthere]
      simp
  · simp [ho]

theorem add_of_mem (h : folder ∈ t.get point) : t.add point folder = t := by
  have hthere : t.isNew point folder = false := by
    rw [isNew, List.contains_iff_mem.mpr h]
    rfl
  cases hget : t.grants.get? point with
  | none => simp [get, hget] at h
  | some paths =>
      have hpaths : t.get point = paths := by simp [get, hget]
      rw [add, hthere, hpaths]
      exact congrArg IncludeTable.mk (Dict.set_of_get? hget)

end IncludeTable

/-! ## The grants of an extension point -/

namespace ExtensionPoint

open IncludeTable

variable {p : ExtensionPoint} {modules : List Module} {t : IncludeTable} {name : String}
  {q : Path}

theorem receivesHeader_iff {m : Module} :
    p.receivesHeader m = true ↔ includeVariable ∈ p.slots
      ∧ ∃ r ∈ m.contributions p.name, Dict.contains r includeVariable = true := by
  rw [receivesHeader, Bool.and_eq_true, List.contains_iff_mem, List.any_eq_true]

theorem mem_get_grant :
    q ∈ (p.grant modules t).get name ↔ q ∈ t.get name
      ∨ name = p.name ∧ ∃ m ∈ modules, p.receivesHeader m = true ∧ m.includeDir = q := by
  have hfrom : ∀ (ms : List Module) (t : IncludeTable),
      q ∈ (ms.foldl (fun t m => t.add p.name m.includeDir) t).get name
        ↔ q ∈ t.get name ∨ name = p.name ∧ ∃ m ∈ ms, m.includeDir = q := by
    intro ms
    induction ms with
    | nil => simp
    | cons m ms ih =>
        intro t
        rw [List.foldl_cons, ih, mem_get_add, or_assoc, ← and_or_left]
        simp only [List.mem_cons, exists_eq_or_imp, eq_comm (a := q)]
  rw [grant, hfrom]
  simp only [List.mem_filter, and_assoc]

/-- Folders that are granted already are not granted anew. -/
theorem grant_of_granted
    (h : ∀ m ∈ modules, p.receivesHeader m = true → m.includeDir ∈ t.get p.name) :
    p.grant modules t = t := by
  have hfrom : ∀ ms : List Module, (∀ m ∈ ms, m.includeDir ∈ t.get p.name) →
      ms.foldl (fun t m => t.add p.name m.includeDir) t = t := by
    intro ms hms
    induction ms with
    | nil => rfl
    | cons m ms ih =>
        obtain ⟨hm, hms⟩ := List.forall_mem_cons.mp hms
        rw [List.foldl_cons, add_of_mem hm]
        exact ih hms
  refine hfrom _ fun m hm => ?_
  obtain ⟨hmem, hreceives⟩ := List.mem_filter.mp hm
  exact h m hmem hreceives

end ExtensionPoint

end PatchForge
