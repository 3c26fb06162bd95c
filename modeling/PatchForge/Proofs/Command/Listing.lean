import PatchForge.Command.Run
import PatchForge.Proofs.Capability.Report
import PatchForge.Proofs.Capability.Uses
import PatchForge.Proofs.Dict.Merge
import PatchForge.Proofs.Work.Run

/-!
# Optional capabilities in a report

A report sorts the optional capabilities of a module in two ways. Those
that no other module exports are missing; this is asked of each by
itself. Those that the module resolved to are satisfied; and a module
that lacks a required capability resolved to nothing. So a report tells
the optional capabilities of a module that resolves apart, and loses
those that are there for a module that does not (`report_optional`). The
list of modules marks what is satisfied, and so marks a capability that
is there as absent in that case.
-/

namespace PatchForge

open Work

namespace Capability

variable {modules others : List Module} {m : Module} {r : Report} {id : String}

/-! ## The two lists of a node -/

theorem mem_missingOptional :
    id ∈ (nodeOf others m).missingOptional ↔ id ∈ m.optional ∧ ¬ ∃ x ∈ others, x.exports id := by
  rw [nodeOf, List.mem_filter, Option.isNone_iff_eq_none, ← not_exported_iff, exported_iff]

/-- Nothing counts as satisfied where something required is missing. -/
theorem mem_satisfiedOptional : id ∈ (nodeOf others m).satisfiedOptional ↔ id ∈ m.optional
    ∧ (∃ x ∈ others, x.exports id) ∧ ∀ need ∈ m.required, ∃ x ∈ others, x.exports need := by
  simp only [← exported_iff]
  rw [Node.satisfiedOptional, List.mem_filter, List.contains_iff_mem]
  refine and_congr_right fun hid => ?_
  show id ∈ (resolve others m).toOption.getD [] ↔ _
  cases h : resolve others m with
  | ok ids =>
      obtain ⟨hall, rfl⟩ := resolve_ok.mp h
      have hmem : id ∈ pushOptional others (m.required.foldl push []) m.optional
          ↔ id ∈ m.required ∨ id ∈ m.optional ∧ Exported others id := by
        simp only [mem_pushOptional, mem_foldl_push, List.not_mem_nil, false_or]
      refine hmem.trans ⟨?_, fun h => Or.inr ⟨hid, h.1⟩⟩
      rintro (hrequired | ⟨-, hexported⟩)
      · exact ⟨hall id hrequired, hall⟩
      · exact ⟨hexported, hall⟩
  | error e =>
      obtain ⟨-, before, after, hsplit, -, hno⟩ := resolve_error h
      refine iff_of_false (by simp [Except.toOption]) fun hboth => hno (hboth.2 e.id ?_)
      rw [hsplit]
      exact List.mem_append_right _ (List.mem_cons_self ..)

/-! ## The nodes of a report -/

/-- Where folders are distinct, each module has its node, and there are no others. -/
theorem nodes_of_report (h : report modules = .ok r)
    (hfolders : (modules.map (·.folder.text)).Nodup) :
    r.nodes = (withOthers modules).map fun e => (e.1.folder.text, nodeOf e.2 e.1) := by
  obtain ⟨exporters, -, rfl⟩ := report_ok.mp h
  refine Dict.ofEntries_of_nodup ?_
  rw [← map_fst_withOthers modules, List.map_map] at hfolders
  rw [Dict.keys, List.map_map]
  exact hfolders

end Capability

namespace Command

variable {modules : List Module} {m : Module} {r : Capability.Report} {w w' : Workshop}
  {row : List String}

/-! ## Marks in the list of modules -/

theorem optionalCell_some (node : Capability.Node) (id : String) : optionalCell (some node) id
    = id ++ if id ∈ node.satisfiedOptional then " ✓" else " ✗" := by
  simp only [optionalCell, Option.map_some, Option.getD_some, List.contains_iff_mem]

theorem tableRow_ok (h : (tableRow r m).run w = (.ok row, w')) :
    row[3]? = some (cell (m.optional.map (optionalCell (r.node? m)))) := by
  obtain ⟨exports, w₁, -, hrow⟩ := bind_ok.mp h
  cases hrow
  rfl

/-- **What a report says of optional capabilities.** In a set of modules with distinct folders
the nodes of a report are those of the modules. An optional capability of a module is missing
exactly if no other module exports it. It is satisfied exactly if another module exports it and
nothing that the module requires is missing; so for a module that resolves it is in one of the two
lists and no other, and for one that does not it is in neither if it is there. The list of modules
marks what is satisfied, and all else as absent. -/
theorem report_optional (h : Capability.report modules = .ok r)
    (hfolders : (modules.map (·.folder.text)).Nodup) :
    (∀ entry ∈ r.nodes, ∃ e ∈ Capability.withOthers modules, r.node? e.1 = some entry.2)
    ∧ ∀ e ∈ Capability.withOthers modules, ∃ node, r.node? e.1 = some node ∧ node.module = e.1
      ∧ (∀ id ∈ e.1.optional,
          (id ∈ node.missingOptional ↔ ¬ ∃ x ∈ e.2, x.exports id)
          ∧ (id ∈ node.satisfiedOptional ↔ (∃ x ∈ e.2, x.exports id)
            ∧ ∀ need ∈ e.1.required, ∃ x ∈ e.2, x.exports need)
          ∧ ((∃ ids, Capability.resolve e.2 e.1 = .ok ids) →
            (id ∈ node.satisfiedOptional ↔ ∃ x ∈ e.2, x.exports id)
            ∧ (id ∈ node.satisfiedOptional ↔ id ∉ node.missingOptional)))
      ∧ ∀ w w' row, (tableRow r e.1).run w = (.ok row, w') → row[3]? = some (cell
          (e.1.optional.map fun id => id ++ if (∃ x ∈ e.2, x.exports id)
            ∧ ∀ need ∈ e.1.required, ∃ x ∈ e.2, x.exports need then " ✓" else " ✗")) := by
  constructor
  · intro entry hentry
    rw [Capability.nodes_of_report h hfolders] at hentry
    obtain ⟨e, he, rfl⟩ := List.mem_map.mp hentry
    exact ⟨e, he, Capability.node?_of_report h hfolders he⟩
  · intro e he
    have hnode := Capability.node?_of_report h hfolders he
    refine ⟨_, hnode, rfl, fun id hid => ?_, fun w w' row hrow => ?_⟩
    · rw [Capability.mem_missingOptional, Capability.mem_satisfiedOptional, and_iff_right hid,
        and_iff_right hid]
      refine ⟨Iff.rfl, Iff.rfl, fun hresolves => ?_⟩
      rw [and_iff_left (Capability.exists_resolve.mp hresolves), not_not]
      exact ⟨Iff.rfl, Iff.rfl⟩
    · rw [tableRow_ok hrow, hnode]
      congr 2
      refine List.map_congr_left fun id hid => ?_
      simp only [optionalCell_some, Capability.mem_satisfiedOptional, hid, true_and]

/-! ### A module that lacks something else -/

def soundModule : Module :=
  { (default : Module) with
    name := "Sound", folder := ⟨.top, ["Sound"]⟩, exported := some (.str "Sound_API")
    exported_present := by decide }

def speakerModule (required : List String) : Module :=
  { (default : Module) with
    name := "Speaker", folder := ⟨.top, ["Speaker"]⟩, required
    optional := ["Sound_API", "Light_API"] }

theorem report_optional_speaker : ∃ r node row w',
    Capability.report [speakerModule [], soundModule] = .ok r
      ∧ r.node? (speakerModule []) = some node
      ∧ "Sound_API" ∈ node.satisfiedOptional ∧ "Light_API" ∈ node.missingOptional
      ∧ (tableRow r (speakerModule [])).run default = (.ok row, w')
      ∧ row[3]? = some "Sound_API ✓, Light_API ✗" := by
  have hexists : ∃ r, Capability.report [speakerModule [], soundModule] = .ok r := by
    refine Capability.exists_report.mpr fun m hm v hv => ?_
    simp only [List.mem_cons, List.not_mem_nil, or_false] at hm
    rcases hm with rfl | rfl <;> cases hv
    rfl
  obtain ⟨r, hr⟩ := hexists
  have he : (speakerModule [], [soundModule])
      ∈ Capability.withOthers [speakerModule [], soundModule] := List.mem_cons_self ..
  obtain ⟨node, hnode, -, hlists, hrow⟩ :=
    (report_optional hr (by decide +kernel)).2 _ he
  obtain ⟨-, hsound, -⟩ := hlists "Sound_API" (by decide)
  obtain ⟨hlight, -, -⟩ := hlists "Light_API" (by decide)
  refine ⟨r, node, _, default, hr, hnode, hsound.mpr (by decide +kernel),
    hlight.mpr (by decide +kernel), rfl, ?_⟩
  exact (hrow default default _ rfl).trans (by decide +kernel)

/-- The capability is exported, and the report has it in neither list, since the module lacks
another one. -/
theorem report_optional_lost : ∃ r node,
    Capability.report [speakerModule ["Power_API"], soundModule] = .ok r
      ∧ r.node? (speakerModule ["Power_API"]) = some node
      ∧ soundModule.exports "Sound_API" = true
      ∧ "Sound_API" ∉ node.satisfiedOptional ∧ "Sound_API" ∉ node.missingOptional
      ∧ optionalCell (r.node? (speakerModule ["Power_API"])) "Sound_API" = "Sound_API ✗" := by
  refine ⟨_, _, rfl, rfl, ?_, ?_, ?_, ?_⟩
  · decide +kernel
  · decide +kernel
  · decide +kernel
  · decide +kernel

end Command

end PatchForge
