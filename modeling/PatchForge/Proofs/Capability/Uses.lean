import PatchForge.Proofs.Capability.LoadOrder

/-!
# What a module resolves to

Resolution goes through what a module requires and then through what it
uses if present, with one list for both. What comes out is said here
without the loops (`resolve_uses`): each required capability where it
comes first, then each optional one that was not required and that some
other module exports, again where it comes first. A module that does not
resolve lacks the first of its required capabilities that no other module
exports.

The two loops differ only in what they let through. Both take in what is
new, so each is a fold over the capabilities that pass
(`pushRequired_ok`, `pushOptional_eq`).
-/

namespace PatchForge.Capability

variable {others : List Module} {m : Module} {id : String}

/-! ## Available capabilities -/

/-- The other modules export what a module at another position does. -/
theorem exported_others_iff {modules : List Module} {i : Nat} :
    (∃ x ∈ Capability.others modules i, x.exports id)
      ↔ ∃ j x, j ≠ i ∧ modules[j]? = some x ∧ x.exports id := by
  simp only [Capability.others, List.mem_eraseIdx_iff_getElem?]
  constructor
  · rintro ⟨x, ⟨j, hj, hx⟩, hexports⟩
    exact ⟨j, x, hj, hx, hexports⟩
  · rintro ⟨j, x, hj, hx, hexports⟩
    exact ⟨x, ⟨j, hj, hx⟩, hexports⟩

theorem exists_resolve : (∃ ids, resolve others m = .ok ids)
    ↔ ∀ id ∈ m.required, ∃ x ∈ others, x.exports id := by
  simp only [resolve_ok, exists_and_left, exists_eq, and_true, exported_iff]

/-! ## What is listed -/

/-- Optional capabilities are taken in after all that is required. -/
theorem resolved_eq (others : List Module) (m : Module) :
    pushOptional others (m.required.foldl push []) m.optional = m.required.eraseDups
      ++ (m.optional.filter fun id => id ∉ m.required ∧ ∃ x ∈ others, x.exports id).eraseDups := by
  have hrequired : m.required.foldl push [] = m.required.eraseDups := foldl_addNew_nil
  rw [pushOptional_eq, hrequired]
  show List.foldl addNew _ _ = _
  rw [foldl_addNew, List.removeAll, List.filter_filter]
  congr 2
  refine List.filter_congr fun id _ => ?_
  have hexported : (exporter? others id).isSome = true ↔ ∃ x ∈ others, x.exports id := by
    rw [← exported_iff, Exported, Option.isSome_iff_exists]
  rw [Bool.eq_iff_iff, Bool.and_eq_true, hexported]
  simp

/-- **What a module resolves to.** A module resolves exactly if each capability that it requires is
exported by one of the other modules, and otherwise lacks the first one that is not. It resolves
to what it requires, in the order in which the capabilities first come, and then to those of its
optional capabilities that are not among these and that one of the other modules exports, in the
order in which they first come; nothing is listed twice. The other modules of a set are those at
other positions. -/
theorem resolve_uses (others : List Module) (m : Module) :
    ((∃ ids, resolve others m = .ok ids) ↔ ∀ id ∈ m.required, ∃ x ∈ others, x.exports id)
    ∧ (∀ e, resolve others m = .error e ↔ e.requester = m.name
        ∧ ∃ before after, m.required = before ++ e.id :: after
          ∧ (∀ id ∈ before, ∃ x ∈ others, x.exports id) ∧ ¬ ∃ x ∈ others, x.exports e.id)
    ∧ (∀ ids, resolve others m = .ok ids → ids.Nodup ∧ ids = m.required.eraseDups
        ++ (m.optional.filter fun id => id ∉ m.required ∧ ∃ x ∈ others, x.exports id).eraseDups)
    ∧ ∀ modules i, others = Capability.others modules i → ∀ id, (∃ x ∈ others, x.exports id)
        ↔ ∃ j x, j ≠ i ∧ modules[j]? = some x ∧ x.exports id := by
  refine ⟨exists_resolve, fun e => ?_, fun ids hids => ⟨nodup_resolve hids, ?_⟩, ?_⟩
  · simp only [resolve_error_iff, exported_iff]
  · obtain ⟨-, rfl⟩ := resolve_ok.mp hids
    exact resolved_eq others m
  · rintro modules i rfl id
    exact exported_others_iff

end PatchForge.Capability
