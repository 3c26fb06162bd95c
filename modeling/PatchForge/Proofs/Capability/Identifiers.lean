import PatchForge.Proofs.Capability.Resolution

/-!
# Identifiers of a checked set

In a set that was checked no capability is exported twice and no name of
an extension point is given twice (`checkSet_ok`). So an identifier leads
back to where it came from: the exporter that a lookup finds is the one
module that exports the capability (`exporter?_of_mem`), and an extension
point is known by its name (`point_of_name`).

The scan is followed step by step: what it has seen grows by the
identifiers of each module, and it goes on only if they are new.
-/

namespace PatchForge

theorem Module.exports_iff {m : Module} {id : String} :
    m.exports id = true ↔ m.exported = some (.str id) := by
  unfold Module.exports
  split
  · rename_i s hs
    rw [hs, decide_eq_true_eq, Option.some.injEq, Json.str.injEq]
  · rename_i hno
    constructor
    · intro h
      cases h
    · intro h
      exact (hno id h).elim

namespace Capability

variable {modules others : List Module} {m x : Module} {id : String}

/-! ## Steps of the scan -/

theorem addPoints_ok {owner : String} : ∀ {ps : List ExtensionPoint} {seen seen' : Seen},
    seen.addPoints owner ps = .ok seen' →
      (seen.points.map Prod.fst).Nodup →
      seen'.capabilities = seen.capabilities
      ∧ seen'.points.map Prod.fst = seen.points.map Prod.fst ++ ps.map (·.name)
      ∧ (seen'.points.map Prod.fst).Nodup
  | [], seen, seen', h, hn => by
      cases h
      exact ⟨rfl, by simp, hn⟩
  | p :: ps, seen, seen', h, hn => by
      rw [Seen.addPoints] at h
      split at h
      · cases h
      · rename_i hnew
        have hfresh : p.name ∉ seen.points.map Prod.fst := by
          intro hmem
          obtain ⟨e, he, hname⟩ := List.mem_map.mp hmem
          have := List.lookup_eq_none_iff.mp hnew e he
          simp [hname] at this
        have hmap : (seen.points ++ [(p.name, owner)]).map Prod.fst
            = seen.points.map Prod.fst ++ [p.name] := by simp
        obtain ⟨hcapabilities, hpoints, hnodup⟩ := addPoints_ok h (by
          rw [hmap, ← List.concat_eq_append]
          exact hn.concat hfresh)
        refine ⟨hcapabilities, ?_, hnodup⟩
        rw [hpoints, hmap]
        simp

/-- The values that have been exported so far. -/
def Seen.exported (seen : Seen) : List Json := seen.capabilities.map Prod.fst

theorem exporter?_none {seen : Seen} {v : Json} :
    seen.exporter? v = none ↔ ∀ w ∈ seen.exported, Json.sameScalar v w = false := by
  rw [Seen.exporter?, Option.map_eq_none_iff, List.find?_eq_none, Seen.exported,
    List.forall_mem_map]
  simp only [Bool.not_eq_true]

/-- What a module exports is a scalar that is like none of those before, and counts then. -/
theorem addCapability_ok {seen seen' : Seen} (h : seen.addCapability m = .ok seen') :
    seen'.points = seen.points
      ∧ seen'.exported = seen.exported ++ m.exported.toList
      ∧ ∀ v, m.exported = some v →
          v.isScalar = true ∧ ∀ w ∈ seen.exported, Json.sameScalar v w = false := by
  unfold Seen.addCapability at h
  split at h
  · rename_i hnone
    cases h
    refine ⟨rfl, by simp [hnone], fun v hv => ?_⟩
    rw [hnone] at hv
    cases hv
  · rename_i v hv
    split at h
    · cases h
    · rename_i hscalar
      split at h
      · cases h
      · rename_i hnew
        cases h
        refine ⟨rfl, by simp [Seen.exported, hv], fun v' hv' => ?_⟩
        obtain rfl := Option.some.inj (hv.symm.trans hv')
        exact ⟨by simpa using hscalar, exporter?_none.mp hnew⟩

/-- The later of two modules exports nothing like what the earlier one does. -/
def Unlike (a b : Module) : Prop :=
  ∀ v w, a.exported = some v → b.exported = some w → Json.sameScalar w v = false

/-- No capability is exported by both. -/
def Apart (a b : Module) : Prop := ∀ id, a.exports id = true → b.exports id = true → False

theorem Unlike.apart {a b : Module} (h : Unlike a b) : Apart a b := by
  intro id ha hb
  have hno := h _ _ (Module.exports_iff.mp ha) (Module.exports_iff.mp hb)
  simp [Json.sameScalar] at hno

theorem checkFrom_ok : ∀ {modules : List Module} {seen : Seen},
    checkFrom seen modules = .ok () → (seen.points.map Prod.fst).Nodup →
      (∀ m ∈ modules, ∀ v, m.exported = some v →
        v.isScalar = true ∧ ∀ w ∈ seen.exported, Json.sameScalar v w = false)
      ∧ modules.Pairwise Unlike
      ∧ (seen.points.map Prod.fst
          ++ modules.flatMap fun m => m.extensionPoints.map (·.name)).Nodup
  | [], seen, _, hn => ⟨by simp, .nil, by simpa using hn⟩
  | m :: modules, seen, h, hn => by
      rw [checkFrom] at h
      split at h
      · cases h
      · rename_i seen₁ hcapability
        split at h
        · cases h
        · rename_i seen₂ hpoints
          obtain ⟨hsame, hgrown, hfirst⟩ := addCapability_ok hcapability
          rw [← hsame] at hn
          obtain ⟨hcapabilities, hnames, hn₂⟩ := addPoints_ok hpoints hn
          obtain ⟨hrest, hpairwise, hnodup⟩ := checkFrom_ok h hn₂
          have hall : seen₂.exported = seen.exported ++ m.exported.toList := by
            rw [Seen.exported, hcapabilities, ← Seen.exported, hgrown]
          refine ⟨List.forall_mem_cons.mpr ⟨hfirst, fun x hx v hv => ?_⟩, ?_, ?_⟩
          · obtain ⟨hscalar, hunlike⟩ := hrest x hx v hv
            refine ⟨hscalar, fun w hw => hunlike w ?_⟩
            rw [hall]
            exact List.mem_append_left _ hw
          · refine List.pairwise_cons.mpr ⟨fun x hx v w hm hv => ?_, hpairwise⟩
            refine (hrest x hx w hv).2 v ?_
            rw [hall, hm]
            exact List.mem_append_right _ (List.mem_singleton_self v)
          · rw [hnames, hsame, List.append_assoc] at hnodup
            exact hnodup

/-- In a set that was checked each value exported is a scalar unlike those before. -/
theorem exported_of_checkSet (h : checkSet modules = .ok ()) :
    (∀ m ∈ modules, ∀ v, m.exported = some v → v.isScalar = true)
      ∧ modules.Pairwise Unlike := by
  obtain ⟨hscalar, hunlike, -⟩ := checkFrom_ok h List.nodup_nil
  exact ⟨fun m hm v hv => (hscalar m hm v hv).1, hunlike⟩

/-- In a set that was checked no capability and no name of an extension point occurs twice. -/
theorem checkSet_ok (h : checkSet modules = .ok ()) :
    modules.Pairwise Apart
      ∧ (modules.flatMap fun m => m.extensionPoints.map (·.name)).Nodup := by
  obtain ⟨-, hunlike, hnames⟩ := checkFrom_ok h List.nodup_nil
  exact ⟨hunlike.imp Unlike.apart, hnames⟩

/-! ## Looking up -/

theorem exporter?_some (h : exporter? others id = some x) :
    x ∈ others ∧ x.exports id = true := by
  have hexports := List.find?_some h
  exact ⟨List.mem_of_find?_eq_some h, hexports⟩

/-- The exporter that a lookup finds is the module that exports the capability. -/
theorem exporter?_of_mem (h : others.Pairwise Apart) (hx : x ∈ others)
    (hid : x.exports id = true) : exporter? others id = some x := by
  unfold exporter?
  induction others with
  | nil => cases hx
  | cons m others ih =>
      obtain ⟨hm, hothers⟩ := List.pairwise_cons.mp h
      rw [List.find?_cons]
      rcases List.mem_cons.mp hx with rfl | hx
      · rw [hid]
      · cases hmid : m.exports id with
        | true => exact (hm x hx id hmid hid).elim
        | false => exact ih hothers hx

/-- An extension point is known by its name. -/
theorem point_of_name (h : (modules.flatMap fun m => m.extensionPoints.map (·.name)).Nodup)
    {m m' : Module} (hm : m ∈ modules) (hm' : m' ∈ modules) {p p' : ExtensionPoint}
    (hp : p ∈ m.extensionPoints) (hp' : p' ∈ m'.extensionPoints) (hname : p.name = p'.name) :
    p = p' := by
  have hflat : (modules.flatMap (·.extensionPoints)).map (·.name)
      = modules.flatMap fun m => m.extensionPoints.map (·.name) := List.map_flatMap ..
  rw [← hflat] at h
  exact List.inj_on_of_nodup_map h (List.mem_flatMap.mpr ⟨m, hm, hp⟩)
    (List.mem_flatMap.mpr ⟨m', hm', hp'⟩) hname

/-! ## A module and the others -/

theorem mem_withOthers {e : Module × List Module} :
    e ∈ withOthers modules ↔ ∃ i, modules[i]? = some e.1 ∧ e.2 = modules.eraseIdx i := by
  unfold withOthers
  rw [List.mem_map]
  constructor
  · rintro ⟨⟨m, i⟩, hmem, rfl⟩
    exact ⟨i, List.mem_zipIdx_iff_getElem?.mp hmem, rfl⟩
  · rintro ⟨i, hi, hothers⟩
    exact ⟨(e.1, i), List.mem_zipIdx_iff_getElem?.mpr hi, Prod.ext rfl hothers.symm⟩

theorem map_fst_withOthers (modules : List Module) :
    (withOthers modules).map Prod.fst = modules := by
  rw [withOthers, List.map_map]
  exact List.zipIdx_map_fst 0 modules

theorem exists_withOthers (hm : m ∈ modules) : ∃ e ∈ withOthers modules, e.1 = m := by
  rw [← map_fst_withOthers modules] at hm
  exact List.mem_map.mp hm

section

variable {e : Module × List Module} (he : e ∈ withOthers modules)

include he

theorem mem_of_withOthers : e.1 ∈ modules := by
  obtain ⟨i, hi, -⟩ := mem_withOthers.mp he
  exact List.mem_of_getElem? hi

theorem others_sublist : e.2.Sublist modules := by
  obtain ⟨i, -, hothers⟩ := mem_withOthers.mp he
  rw [hothers]
  exact List.eraseIdx_sublist ..

theorem eq_or_mem_others (hx : x ∈ modules) : x = e.1 ∨ x ∈ e.2 := by
  obtain ⟨i, hi, hothers⟩ := mem_withOthers.mp he
  obtain ⟨j, hj⟩ := List.mem_iff_getElem?.mp hx
  by_cases hij : j = i
  · subst hij
    rw [hi] at hj
    exact Or.inl (Option.some.inj hj).symm
  · rw [hothers]
    exact Or.inr (List.mem_eraseIdx_iff_getElem?.mpr ⟨j, hij, hj⟩)

end

theorem exportersFor_ok {exporters : List Module} :
    exportersFor others m = .ok exporters ↔ ∃ ids, resolve others m = .ok ids
      ∧ List.Forall₂ (fun id x => exporter? others id = some x) ids exporters := by
  have hsteps : ∀ ids, ids.mapM (require others m) = .ok exporters
      ↔ List.Forall₂ (fun id x => exporter? others id = some x) ids exporters := by
    intro ids
    simp only [Result.mapM_ok, require_ok]
  rw [exportersFor, Result.bind_ok]
  simp only [hsteps]

theorem exportersFor_iff {exporters : List Module} {ids : List String}
    (hids : resolve others m = .ok ids) : exportersFor others m = .ok exporters
      ↔ List.Forall₂ (fun id x => exporter? others id = some x) ids exporters := by
  rw [exportersFor_ok]
  constructor
  · rintro ⟨ids', hids', hall⟩
    obtain rfl : ids' = ids := Except.ok.inj (hids'.symm.trans hids)
    exact hall
  · exact fun hall => ⟨ids, hids, hall⟩

/-- The exporters are what the lookups of the resolved capabilities find. -/
theorem mem_exportersFor_iff {exporters : List Module}
    (h : exportersFor others m = .ok exporters) {ids : List String}
    (hids : resolve others m = .ok ids) :
    x ∈ exporters ↔ ∃ id ∈ ids, exporter? others id = some x := by
  rw [exportersFor_iff hids] at h
  clear hids
  induction h with
  | nil => simp
  | @cons id y ids exporters hy _ ih =>
      rw [List.mem_cons, ih]
      simp only [List.mem_cons, exists_eq_or_imp]
      rw [hy, Option.some.injEq, eq_comm]

theorem exportersFor_subset {exporters : List Module}
    (h : exportersFor others m = .ok exporters) (hx : x ∈ exporters) : x ∈ others := by
  obtain ⟨ids, hids, -⟩ := exportersFor_ok.mp h
  obtain ⟨id, -, hid⟩ := (mem_exportersFor_iff h hids).mp hx
  exact (exporter?_some hid).1

/-- In a checked set the exporters are those that export what was resolved. -/
theorem mem_exportersFor {exporters : List Module} (h : exportersFor others m = .ok exporters)
    (hapart : others.Pairwise Apart) {ids : List String} (hids : resolve others m = .ok ids) :
    x ∈ exporters ↔ x ∈ others ∧ ∃ id ∈ ids, x.exports id = true := by
  rw [mem_exportersFor_iff h hids]
  constructor
  · rintro ⟨id, hid, hx⟩
    obtain ⟨hmem, hexports⟩ := exporter?_some hx
    exact ⟨hmem, id, hid, hexports⟩
  · rintro ⟨hx, id, hid, hexports⟩
    exact ⟨id, hid, exporter?_of_mem hapart hx hexports⟩

end Capability

end PatchForge
