import PatchForge.Capability.Registry
import PatchForge.Proofs.Basic

/-!
# What resolution promises

A module resolves exactly if each capability it requires is exported by
another module (`resolve_ok`), and whatever it resolves to is exported.
So the exporters of a module that resolves can always be looked up
(`exportersFor_of_resolve`), and those of every module of a set that was
verified (`exportersFor_of_verify`).
-/

namespace PatchForge.Capability

variable {others modules : List Module} {m : Module} {id : String}

/-- Some module of the list exports the capability. -/
def Exported (modules : List Module) (id : String) : Prop :=
  ∃ m, exporter? modules id = some m

theorem exported_iff : Exported others id ↔ ∃ x ∈ others, x.exports id := by
  rw [Exported, ← Option.isSome_iff_exists, exporter?, List.find?_isSome]

theorem not_exported_iff : ¬ Exported others id ↔ exporter? others id = none := by
  rw [Exported, ← Option.isSome_iff_exists, Option.not_isSome_iff_eq_none]

theorem require_ok {exporter : Module} :
    require others m id = .ok exporter ↔ exporter? others id = some exporter := by
  unfold require
  cases exporter? others id with
  | some e => simp
  | none => simp

theorem mem_foldl_push {x : String} {new ids : List String} :
    x ∈ new.foldl push ids ↔ x ∈ ids ∨ x ∈ new := mem_foldl_addNew

theorem pushRequired_ok : ∀ {required ids ids' : List String},
    pushRequired others m ids required = .ok ids' ↔
      (∀ id ∈ required, Exported others id) ∧ ids' = required.foldl push ids
  | [], ids, ids' => by simp [pushRequired, eq_comm]
  | id :: required, ids, ids' => by
      rw [pushRequired, List.forall_mem_cons, List.foldl_cons]
      cases hr : require others m id with
      | ok exporter =>
          have hexported : Exported others id := ⟨exporter, require_ok.mp hr⟩
          simp only [pushRequired_ok, hexported, true_and]
      | error e =>
          have hnot : ¬ Exported others id := by
            rintro ⟨exporter, hexporter⟩
            rw [require_ok.mpr hexporter] at hr
            cases hr
          simp [hnot]

/-- Taking in what is exported is taking in all of it that is. -/
theorem pushOptional_eq : ∀ optional ids : List String, pushOptional others ids optional
    = (optional.filter fun id => (exporter? others id).isSome).foldl push ids
  | [], ids => rfl
  | id :: optional, ids => by
      rw [pushOptional, pushOptional_eq, List.filter_cons]
      cases (exporter? others id).isSome with
      | true => rfl
      | false => rfl

theorem mem_pushOptional {x : String} {optional ids : List String} :
    x ∈ pushOptional others ids optional ↔ x ∈ ids ∨ x ∈ optional ∧ Exported others x := by
  rw [pushOptional_eq, mem_foldl_push, List.mem_filter, Option.isSome_iff_exists]
  rfl

/-- A module resolves exactly if all it requires is exported. -/
theorem resolve_ok {ids : List String} :
    resolve others m = .ok ids ↔ (∀ id ∈ m.required, Exported others id)
      ∧ ids = pushOptional others (m.required.foldl push []) m.optional := by
  rw [resolve, Result.map_ok]
  constructor
  · rintro ⟨required, hrequired, rfl⟩
    obtain ⟨hall, rfl⟩ := pushRequired_ok.mp hrequired
    exact ⟨hall, rfl⟩
  · rintro ⟨hall, rfl⟩
    exact ⟨_, pushRequired_ok.mpr ⟨hall, rfl⟩, rfl⟩

theorem pushRequired_error_iff {e : Missing} : ∀ {required ids : List String},
    pushRequired others m ids required = .error e ↔ e.requester = m.name
      ∧ required.find? (fun id => (exporter? others id).isNone) = some e.id
  | [], ids => by simp [pushRequired]
  | id :: required, ids => by
      rw [pushRequired, require, List.find?_cons]
      cases exporter? others id with
      | some x => exact pushRequired_error_iff
      | none =>
          obtain ⟨missing, requester⟩ := e
          simp only [Option.isNone_none, Except.error.injEq, Missing.mk.injEq,
            Option.some.injEq, eq_comm, and_comm]

/-- The first of the required capabilities that is not exported is missing. -/
theorem resolve_error_iff {e : Missing} : resolve others m = .error e ↔ e.requester = m.name
    ∧ ∃ before after, m.required = before ++ e.id :: after
      ∧ (∀ id ∈ before, Exported others id) ∧ ¬ Exported others e.id := by
  rw [resolve, Result.map_error, pushRequired_error_iff, List.find?_eq_some_iff_append]
  have hmissing : ∀ id, (exporter? others id).isNone = true ↔ ¬ Exported others id := fun id => by
    rw [not_exported_iff, Option.isNone_iff_eq_none]
  simp only [Bool.not_eq_true', ← Bool.not_eq_true, hmissing, not_not]
  refine and_congr_right fun _ => ⟨?_, ?_⟩
  · rintro ⟨hno, before, after, hsplit, hbefore⟩
    exact ⟨before, after, hsplit, hbefore, hno⟩
  · rintro ⟨before, after, hsplit, hbefore, hno⟩
    exact ⟨hno, before, after, hsplit, hbefore⟩

theorem resolve_error {e : Missing} (h : resolve others m = .error e) :
    e.requester = m.name ∧ ∃ before after, m.required = before ++ e.id :: after
      ∧ (∀ id ∈ before, Exported others id) ∧ ¬ Exported others e.id :=
  resolve_error_iff.mp h

/-- Whatever a module resolves to is exported. -/
theorem exported_of_resolve {ids : List String} (h : resolve others m = .ok ids) :
    ∀ id ∈ ids, Exported others id := by
  obtain ⟨hall, rfl⟩ := resolve_ok.mp h
  intro id hid
  rcases mem_pushOptional.mp hid with hrequired | ⟨-, hexported⟩
  · exact hall id ((mem_foldl_push.mp hrequired).resolve_left List.not_mem_nil)
  · exact hexported

/-- The exporters of a module that resolves can be looked up. -/
theorem exportersFor_of_resolve {ids : List String} (h : resolve others m = .ok ids) :
    ∃ exporters, exportersFor others m = .ok exporters := by
  obtain ⟨exporters, hexporters⟩ : ∃ exporters, ids.mapM (require others m) = .ok exporters := by
    refine Result.exists_mapM_ok.mpr fun id hid => ?_
    obtain ⟨exporter, hexporter⟩ := exported_of_resolve h id hid
    exact ⟨exporter, require_ok.mpr hexporter⟩
  exact ⟨exporters, Result.bind_ok.mpr ⟨ids, h, hexporters⟩⟩

theorem resolve_of_verify {resolved : Dict String (List String)}
    (h : verify modules = .ok resolved) {e : Module × List Module} (he : e ∈ withOthers modules) :
    ∃ ids, resolve e.2 e.1 = .ok ids := by
  obtain ⟨entries, hentries, -⟩ := Result.bind_ok.mp h
  obtain ⟨entry, hentry⟩ := Result.exists_mapM_ok.mp ⟨entries, hentries⟩ e he
  obtain ⟨ids, hids, -⟩ := Result.map_ok.mp hentry
  exact ⟨ids, hids⟩

/-- In a set that was verified the exporters of every module can be looked up. -/
theorem exportersFor_of_verify {resolved : Dict String (List String)}
    (h : verify modules = .ok resolved) {e : Module × List Module} (he : e ∈ withOthers modules) :
    ∃ exporters, exportersFor e.2 e.1 = .ok exporters := by
  obtain ⟨ids, hids⟩ := resolve_of_verify h he
  exact exportersFor_of_resolve hids

end PatchForge.Capability
