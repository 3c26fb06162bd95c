import PatchForge.Capability.Report
import PatchForge.Proofs.Capability.Identifiers

/-!
# A report and the check that stops

A report resolves every module and collects what is missing; the check
before a build stops at the first thing missing. Both ask the same
question of each module, so the check goes through exactly if the report
has no errors, and it stops with the first of them (`Report.Agrees`).

What a report finds for an identifier is what a lookup finds. The report
enters each module's capability unless it is there, and a lookup takes the
first module that exports it: the first entry of an identifier is its
first exporter (`exporterName?_exportersOf`). An identifier that is an
array or an object has no place among the entries, and then there is no
report (`exists_report`).
-/

namespace PatchForge.Capability

variable {modules others : List Module} {m : Module} {r : Report}

/-! ## Exporters -/

/-- The module that is entered for a capability. -/
def exporterName? (exporters : List (Json × String)) (id : String) : Option String :=
  (exporters.find? fun e => Json.sameScalar (.str id) e.1).map (·.2)

theorem sameScalar_str {id : String} {v : Json} :
    Json.sameScalar (.str id) v = true ↔ v = .str id := by
  cases v with
  | str s => simp [Json.sameScalar, eq_comm]
  | null => simp [Json.sameScalar, Json.sameScalar.asInt?]
  | bool b => simp [Json.sameScalar, Json.sameScalar.asInt?]
  | int n => simp [Json.sameScalar, Json.sameScalar.asInt?]
  | float x => simp [Json.sameScalar, Json.sameScalar.asInt?]
  | arr items => simp [Json.sameScalar, Json.sameScalar.asInt?]
  | obj fields => simp [Json.sameScalar, Json.sameScalar.asInt?]

theorem exists_exportersOf : ∀ {modules : List Module} {found : List (Json × String)},
    (∃ exporters, exportersOf found modules = .ok exporters)
      ↔ ∀ m ∈ modules, ∀ v, m.exported = some v → v.isScalar = true
  | [], found => by simp [exportersOf]
  | m :: modules, found => by
      rw [List.forall_mem_cons, exportersOf]
      cases hm : m.exported with
      | none => simp [exists_exportersOf]
      | some v =>
          cases hv : v.isScalar with
          | false => simp [hv]
          | true =>
              by_cases hthere : found.any fun e => Json.sameScalar v e.1
              · simp [hv, hthere, exists_exportersOf]
              · simp [hv, hthere, exists_exportersOf]

theorem exporterName?_append (found : List (Json × String)) (v : Json) (name id : String) :
    exporterName? (found ++ [(v, name)]) id = (exporterName? found id).or
      (if Json.sameScalar (.str id) v then some name else none) := by
  rw [exporterName?, List.find?_append, Option.map_or, ← exporterName?, List.find?_cons]
  cases Json.sameScalar (.str id) v with
  | true => rfl
  | false => rfl

theorem exports_of_exported {v : Json} (hm : m.exported = some v) (id : String) :
    m.exports id = Json.sameScalar (.str id) v := by
  rw [Bool.eq_iff_iff, Module.exports_iff, hm, Option.some.injEq, sameScalar_str]

/-- A module enters its capability, which counts for a text not entered before. -/
theorem exportersOf_cons {found exporters : List (Json × String)}
    (h : exportersOf found (m :: modules) = .ok exporters) :
    ∃ found', exportersOf found' modules = .ok exporters
      ∧ ∀ id, exporterName? found' id = (exporterName? found id).or
        (if m.exports id then some m.name else none) := by
  rw [exportersOf] at h
  cases hm : m.exported with
  | none =>
      rw [hm] at h
      have hno : ∀ id, m.exports id = false := by simp [Module.exports, hm]
      exact ⟨found, h, fun id => by simp [hno]⟩
  | some v =>
      rw [hm] at h
      dsimp only at h
      split at h
      · cases h
      · split at h
        · rename_i hthere
          refine ⟨found, h, fun id => ?_⟩
          rw [exports_of_exported hm]
          cases hv : Json.sameScalar (.str id) v with
          | false => simp
          | true =>
              rw [sameScalar_str.mp hv] at hthere
              have hsome : (exporterName? found id).isSome = true := by
                rw [exporterName?, Option.isSome_map, List.find?_isSome]
                exact List.any_eq_true.mp hthere
              rw [Option.or_of_isSome hsome]
        · refine ⟨_, h, fun id => ?_⟩
          rw [exporterName?_append, exports_of_exported hm]

/-- What is entered for a text is what was entered, or else the first module that exports it. -/
theorem exporterName?_exportersOf (id : String) : ∀ {modules : List Module}
    {found exporters : List (Json × String)}, exportersOf found modules = .ok exporters →
      exporterName? exporters id
        = (exporterName? found id).or ((exporter? modules id).map (·.name))
  | [], found, exporters, h => by
      cases h
      simp [exporter?]
  | m :: modules, found, exporters, h => by
      obtain ⟨found', hrest, hentered⟩ := exportersOf_cons h
      rw [exporter?, List.find?_cons, ← exporter?]
      rw [exporterName?_exportersOf id hrest, hentered, Option.or_assoc]
      cases m.exports id with
      | true => rfl
      | false => rfl

/-! ## Errors -/

/-- The module requires a capability that none of the others exports. -/
def lacks (others : List Module) (m : Module) : Bool :=
  m.required.any fun id => (exporter? others id).isNone

theorem lacks_iff : lacks others m = true ↔ ∃ id ∈ m.required, ¬ Exported others id := by
  simp only [lacks, List.any_eq_true, Option.isNone_iff_eq_none, Exported,
    Option.eq_none_iff_forall_ne_some, not_exists, ne_eq]

theorem error?_isSome : (error? others m).isSome = lacks others m := by
  rw [Bool.eq_iff_iff, lacks_iff, error?]
  cases h : resolve others m with
  | ok ids =>
      have hall := (resolve_ok.mp h).1
      refine iff_of_false (by simp) ?_
      rintro ⟨id, hid, hno⟩
      exact hno (hall id hid)
  | error e =>
      obtain ⟨-, before, after, hrequired, -, hno⟩ := resolve_error h
      refine iff_of_true rfl ⟨e.id, ?_, hno⟩
      rw [hrequired]
      exact List.mem_append_right _ (List.mem_cons_self ..)

theorem error?_eq_none : error? others m = none ↔ ∃ ids, resolve others m = .ok ids := by
  rw [error?]
  cases resolve others m with
  | ok ids => simp
  | error e => simp

theorem exists_verify : (∃ resolved, verify modules = .ok resolved)
    ↔ ∀ e ∈ withOthers modules, ∃ ids, resolve e.2 e.1 = .ok ids := by
  constructor
  · rintro ⟨resolved, hresolved⟩ e he
    exact resolve_of_verify hresolved he
  · intro h
    obtain ⟨entries, hentries⟩ : ∃ entries, (withOthers modules).mapM (fun e =>
        (resolve e.2 e.1).map (e.1.name, ·)) = .ok entries := by
      refine Result.exists_mapM_ok.mpr fun e he => ?_
      obtain ⟨ids, hids⟩ := h e he
      exact ⟨_, Result.map_ok.mpr ⟨ids, hids, rfl⟩⟩
    exact ⟨_, Result.bind_ok.mpr ⟨entries, hentries, rfl⟩⟩

/-- The check stops with the first message of all. -/
theorem head?_of_verify {missing : Missing} (h : verify modules = .error missing) :
    ((withOthers modules).filterMap fun e => error? e.2 e.1).head? = some missing.message := by
  have hsteps : (withOthers modules).mapM (fun e => (resolve e.2 e.1).map (e.1.name, ·))
      = .error missing := by
    rw [verify] at h
    cases hm : (withOthers modules).mapM fun e => (resolve e.2 e.1).map (e.1.name, ·) with
    | ok entries =>
        rw [hm] at h
        cases h
    | error e =>
        rw [hm] at h
        exact h
  obtain ⟨before, e, after, hsplit, hbefore, he⟩ := Result.mapM_error hsteps
  have hnone : before.filterMap (fun e => error? e.2 e.1) = [] := by
    refine List.filterMap_eq_nil_iff.mpr fun x hx => error?_eq_none.mpr ?_
    obtain ⟨entry, hentry⟩ := hbefore x hx
    obtain ⟨ids, hids, -⟩ := Result.map_ok.mp hentry
    exact ⟨ids, hids⟩
  have hfirst : error? e.2 e.1 = some missing.message := by
    rw [error?, Result.map_error.mp he]
  rw [hsplit, List.filterMap_append, hnone, List.nil_append, List.filterMap_cons, hfirst]
  rfl

/-! ## The report -/

theorem report_ok : report modules = .ok r ↔ ∃ exporters, exportersOf [] modules = .ok exporters
    ∧ r = { nodes := Dict.ofEntries ((withOthers modules).map fun e =>
              (e.1.folder.text, nodeOf e.2 e.1))
            exporters
            errors := (withOthers modules).filterMap fun e => error? e.2 e.1 } := by
  rw [report, Result.bind_ok]
  refine exists_congr fun exporters => and_congr_right fun _ => ?_
  exact ⟨fun h => (Except.ok.inj h).symm, fun h => h ▸ rfl⟩

/-- There is a report unless a module exports an array or an object. -/
theorem exists_report : (∃ r, report modules = .ok r)
    ↔ ∀ m ∈ modules, ∀ v, m.exported = some v → v.isScalar = true := by
  rw [← @exists_exportersOf modules []]
  constructor
  · rintro ⟨r, hr⟩
    obtain ⟨exporters, hexporters, -⟩ := report_ok.mp hr
    exact ⟨exporters, hexporters⟩
  · rintro ⟨exporters, hexporters⟩
    exact ⟨_, report_ok.mpr ⟨exporters, hexporters, rfl⟩⟩

/-- Where folders are distinct, the node under a module's folder is the module's. -/
theorem node?_of_report (h : report modules = .ok r)
    (hfolders : (modules.map (·.folder.text)).Nodup) {e : Module × List Module}
    (he : e ∈ withOthers modules) : r.node? e.1 = some (nodeOf e.2 e.1) := by
  obtain ⟨exporters, -, rfl⟩ := report_ok.mp h
  have hkeys : (((withOthers modules).map fun e =>
      (e.1.folder.text, nodeOf e.2 e.1)).map Prod.fst).Nodup := by
    rw [← map_fst_withOthers modules, List.map_map] at hfolders
    rw [List.map_map]
    exact hfolders
  exact Dict.get?_merge hkeys (List.mem_map.mpr ⟨e, he, rfl⟩)

/-- A report says of a module set what the check that stops and the lookups say. -/
structure Report.Agrees (r : Report) (modules : List Module) : Prop where
  verified : (∃ resolved, verify modules = .ok resolved) ↔ r.hasErrors = false
  first : ∀ missing, verify modules = .error missing → r.errors.head? = some missing.message
  count : r.errors.length = (withOthers modules).countP fun e => lacks e.2 e.1
  exporters : ∀ id, exporterName? r.exporters id = (exporter? modules id).map (·.name)
  nodes : (modules.map (·.folder.text)).Nodup → ∀ e ∈ withOthers modules,
    ∃ node, r.node? e.1 = some node ∧ node.module = e.1
      ∧ (∀ ids, resolve e.2 e.1 = .ok ids → node.resolved = ids)
      ∧ ∀ missing, resolve e.2 e.1 = .error missing → node.resolved = []

theorem Report.agrees (h : report modules = .ok r) : r.Agrees modules := by
  obtain ⟨exporters, hexporters, rfl⟩ := report_ok.mp h
  constructor
  case verified =>
    rw [exists_verify, Report.hasErrors, Bool.not_eq_false', List.isEmpty_iff,
      List.filterMap_eq_nil_iff]
    simp only [error?_eq_none]
  case first =>
    exact fun missing => head?_of_verify
  case count =>
    rw [List.length_filterMap_eq_countP]
    simp only [error?_isSome]
  case exporters =>
    intro id
    rw [exporterName?_exportersOf id hexporters]
    rfl
  case nodes =>
    intro hfolders e he
    refine ⟨nodeOf e.2 e.1, ?_, rfl, fun ids hids => ?_, fun missing hmissing => ?_⟩
    · exact node?_of_report h hfolders he
    · rw [nodeOf, hids]
      rfl
    · rw [nodeOf, hmissing]
      rfl

end PatchForge.Capability
