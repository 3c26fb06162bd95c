import Mathlib.Data.List.Perm.Basic
import PatchForge.Proofs.Capability.Identifiers

/-!
# Capabilities and the order of loading

A lookup takes the first module that exports a capability, so in general
it depends on the order in which modules were loaded. In a checked set it
does not: what is exported is exported once, and the first exporter is the
only one (`exporter?_perm`). Resolution sees the other modules through
lookups alone (`resolve_congr`), and the modules other than a given one
are the same in any order (`others_perm`).

The exporters of what a module resolves to are told apart by what they
export, since resolution repeats nothing (`nodup_resolve`).
-/

namespace PatchForge

theorem Json.sameScalar_comm (v w : Json) : sameScalar v w = sameScalar w v := by
  cases v <;> cases w <;>
    simp only [sameScalar, sameScalar.asInt?, eq_comm, Bool.and_comm]
  -- what is left compares a number with a value of another kind
  all_goals cases Binary64.toInt? _ <;> simp only [eq_comm]

namespace Capability

variable {modules modules' others₁ others₂ exporters : List Module} {m : Module}
  {ids : List String} {i j : Nat}

theorem Unlike.symm {a b : Module} (h : Unlike a b) : Unlike b a := by
  intro v w hb ha
  rw [Json.sameScalar_comm]
  exact h w v ha hb

/-- Like values are exported from one position. -/
theorem position_of_exported (h : modules.Pairwise Unlike) {x y : Module} {v w : Json}
    (hi : modules[i]? = some x) (hj : modules[j]? = some y) (hx : x.exported = some v)
    (hy : y.exported = some w) (hlike : Json.sameScalar v w = true) : i = j := by
  have hbefore : ∀ {i j : Nat} {x y : Module} {v w : Json}, modules[i]? = some x →
      modules[j]? = some y → x.exported = some v → y.exported = some w → i < j →
      Json.sameScalar w v = false := by
    intro i j x y v w hi hj hx hy hlt
    obtain ⟨hi', rfl⟩ := List.getElem?_eq_some_iff.mp hi
    obtain ⟨hj', rfl⟩ := List.getElem?_eq_some_iff.mp hj
    exact List.pairwise_iff_getElem.mp h i j hi' hj' hlt v w hx hy
  rcases Nat.lt_trichotomy i j with hlt | heq | hgt
  · have hno := hbefore hi hj hx hy hlt
    rw [Json.sameScalar_comm, hlike] at hno
    cases hno
  · exact heq
  · have hno := hbefore hj hi hy hx hgt
    rw [hlike] at hno
    cases hno

/-! ## The same modules in another order -/

/-- Where no capability is exported twice, a lookup finds the same module in every order. -/
theorem exporter?_perm (h : modules.Pairwise Apart) (hperm : modules.Perm modules')
    (id : String) : exporter? modules' id = exporter? modules id := by
  have hsymm : ∀ {a b : Module}, Apart a b → Apart b a := fun h id hb ha => h id ha hb
  have h' : modules'.Pairwise Apart := (hperm.pairwise_iff hsymm).mp h
  cases hx : exporter? modules id with
  | some x =>
      obtain ⟨hmem, hexports⟩ := exporter?_some hx
      exact exporter?_of_mem h' (hperm.mem_iff.mp hmem) hexports
  | none =>
      refine List.find?_eq_none.mpr fun y hy => ?_
      exact List.find?_eq_none.mp hx y (hperm.mem_iff.mpr hy)

theorem others_perm (hperm : modules.Perm modules') (hi : modules[i]? = some m)
    (hj : modules'[j]? = some m) : (others modules i).Perm (others modules' j) := by
  obtain ⟨hi', rfl⟩ := List.getElem?_eq_some_iff.mp hi
  obtain ⟨hj', hm⟩ := List.getElem?_eq_some_iff.mp hj
  have hfront := (List.getElem_cons_eraseIdx_perm hi').trans
    (hperm.trans (List.getElem_cons_eraseIdx_perm hj').symm)
  rw [hm] at hfront
  exact hfront.cons_inv

/-! ## Resolution sees lookups alone -/

section

variable (hsame : ∀ id, exporter? others₁ id = exporter? others₂ id)

include hsame

theorem require_congr (id : String) : require others₁ m id = require others₂ m id := by
  rw [require, require, hsame]

theorem pushRequired_congr : ∀ required ids : List String,
    pushRequired others₁ m ids required = pushRequired others₂ m ids required
  | [], ids => rfl
  | id :: required, ids => by
      rw [pushRequired, pushRequired, require_congr hsame]
      cases require others₂ m id with
      | ok x => exact pushRequired_congr required (push ids id)
      | error e => rfl

theorem resolve_congr (m : Module) : resolve others₁ m = resolve others₂ m := by
  have hoptional : pushOptional others₁ = pushOptional others₂ :=
    funext fun ids => funext fun optional => by simp only [pushOptional_eq, hsame]
  rw [resolve, resolve, pushRequired_congr hsame, hoptional]

theorem exportersFor_congr (m : Module) : exportersFor others₁ m = exportersFor others₂ m := by
  have hrequire : require others₁ m = require others₂ m := funext (require_congr hsame)
  rw [exportersFor, exportersFor, resolve_congr hsame, hrequire]

end

/-! ## Exporters are told apart -/

/-- Resolution lists nothing twice. -/
theorem nodup_resolve (h : resolve others₁ m = .ok ids) : ids.Nodup := by
  obtain ⟨-, rfl⟩ := resolve_ok.mp h
  rw [pushOptional_eq]
  exact nodup_foldl_addNew (nodup_foldl_addNew List.nodup_nil)

/-- Each exporter exports what was resolved at its place. -/
theorem exported_of_exportersFor (h : exportersFor others₁ m = .ok exporters)
    (hids : resolve others₁ m = .ok ids) :
    List.Forall₂ (fun id x => x.exported = some (.str id)) ids exporters := by
  have hall := (exportersFor_iff hids).mp h
  exact hall.imp fun id x hx => Module.exports_iff.mp (exporter?_some hx).2

theorem nodup_of_exported (hall : List.Forall₂ (fun id (x : Module) =>
    x.exported = some (.str id)) ids exporters) (hids : ids.Nodup) : exporters.Nodup := by
  have hmap : exporters.map (·.exported) = ids.map fun id => some (Json.str id) := by
    induction hall with
    | nil => rfl
    | cons hx _ ih => rw [List.map_cons, List.map_cons, hx, ih hids.of_cons]
  refine List.Nodup.of_map (·.exported) ?_
  rw [hmap]
  exact hids.map fun a b hab => Json.str.inj (Option.some.inj hab)

theorem nodup_exportersFor (h : exportersFor others₁ m = .ok exporters) : exporters.Nodup := by
  obtain ⟨ids, hids, -⟩ := exportersFor_ok.mp h
  exact nodup_of_exported (exported_of_exportersFor h hids) (nodup_resolve hids)

/-! ## Any order of a checked set -/

/-- **Capabilities of a checked set do not depend on the order of loading.** However the modules
are ordered, a value is exported from one position, and each module resolves to the same
capabilities, or lacks the same one, with the same exporters. They can be looked up whenever the
module resolves; they are modules other than it, none twice, each exporting what was resolved at
its place. -/
theorem capabilities_permuted (hset : checkSet modules = .ok ())
    (hperm : modules.Perm modules') :
    (∀ (i j : Nat) (x y : Module) v w, modules'[i]? = some x → modules'[j]? = some y →
      x.exported = some v → y.exported = some w → Json.sameScalar v w = true → i = j)
    ∧ ∀ (i j : Nat) m, modules[i]? = some m → modules'[j]? = some m →
      resolve (others modules' j) m = resolve (others modules i) m
      ∧ exportersFor (others modules' j) m = exportersFor (others modules i) m
      ∧ ∀ ids, resolve (others modules' j) m = .ok ids →
        ∃ exporters, exportersFor (others modules' j) m = .ok exporters
          ∧ exporters.Nodup ∧ m ∉ exporters
          ∧ (∀ x ∈ exporters, ∃ k, k ≠ j ∧ modules'[k]? = some x)
          ∧ List.Forall₂ (fun id x => x.exported = some (.str id)) ids exporters := by
  have hunlike := (exported_of_checkSet hset).2
  have hunlike' := (hperm.pairwise_iff Unlike.symm).mp hunlike
  refine ⟨fun i j x y v w => position_of_exported hunlike', fun i j m hi hj => ?_⟩
  have hapart : (others modules i).Pairwise Apart :=
    (hunlike.sublist (List.eraseIdx_sublist ..)).imp Unlike.apart
  have hsame := exporter?_perm hapart (others_perm hperm hi hj)
  refine ⟨resolve_congr hsame m, exportersFor_congr hsame m, fun ids hids => ?_⟩
  obtain ⟨exporters, hexporters⟩ := exportersFor_of_resolve hids
  have hother : ∀ x ∈ exporters, ∃ k, k ≠ j ∧ modules'[k]? = some x := fun x hx =>
    List.mem_eraseIdx_iff_getElem?.mp (exportersFor_subset hexporters hx)
  have hexported := exported_of_exportersFor hexporters hids
  refine ⟨exporters, hexporters, nodup_exportersFor hexporters, fun hm => ?_, hother, hexported⟩
  -- a module equal to `m` would export its capability from a second position
  obtain ⟨k, hk, hkm⟩ := hother m hm
  obtain ⟨id, -, hid⟩ := (mem_exportersFor_iff hexporters hids).mp hm
  have hm := Module.exports_iff.mp (exporter?_some hid).2
  exact hk (position_of_exported hunlike' hkm hj hm hm (by simp [Json.sameScalar]))

def mixerModule : Module :=
  { (default : Module) with
    name := "Mixer", exported := some (.str "Sound"), exported_present := by decide }

def screenModule : Module :=
  { (default : Module) with
    name := "Screen", exported := some (.str "Picture"), exported_present := by decide }

/-- It names its own capability and repeats what it needs. -/
def playerModule : Module :=
  { (default : Module) with
    name := "Player"
    exported := some (.str "Film")
    exported_present := by decide
    required := ["Sound", "Picture", "Sound"]
    optional := ["Film", "Picture", "Subtitles"] }

theorem capabilities_permuted_player :
    checkSet [playerModule, mixerModule, screenModule] = .ok ()
      ∧ resolve [screenModule, mixerModule] playerModule = .ok ["Sound", "Picture"]
      ∧ ∃ exporters, exportersFor [screenModule, mixerModule] playerModule = .ok exporters
        ∧ exporters.Nodup ∧ exporters.length = 2 := by
  have hset : checkSet [playerModule, mixerModule, screenModule] = .ok () :=
    Result.toOption_some.mp (by decide +kernel)
  have hids : resolve [mixerModule, screenModule] playerModule = .ok ["Sound", "Picture"] :=
    Result.toOption_some.mp (by decide +kernel)
  have hperm : ([playerModule, mixerModule] ++ [screenModule]).Perm
      ([screenModule] ++ [playerModule, mixerModule]) := List.perm_append_comm
  obtain ⟨hresolve, -, hexporters⟩ :=
    (capabilities_permuted hset hperm).2 0 1 playerModule rfl rfl
  have hids' := hresolve.trans hids
  obtain ⟨exporters, hfound, hnodup, -, -, hexported⟩ := hexporters _ hids'
  exact ⟨hset, hids', exporters, hfound, hnodup, hexported.length_eq.symm⟩

end Capability

end PatchForge
