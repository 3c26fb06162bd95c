import PatchForge.Proofs.Capability.Identifiers
import PatchForge.Proofs.Declaration.Fields

/-!
# Capabilities as they are declared

A declaration may give its capability as a text, a number or a truth
value, and another declaration may list the same value among what it
requires. The one is kept as the value that it is and the other as its
text, so the two meet only if the value was a text. A module that exports
the number 5 therefore serves nobody who requires 5, or "5".
-/

namespace PatchForge.Capability

open Declaration

variable {declaration declaration' v : Json} {folder folder' : Path} {m m' : Module}
  {modules : List Module} {items : List Json} {i : Nat}

theorem exported_of_declared (h : moduleOf declaration folder = .ok m)
    (hid : declaration.field? "APIId" = some v) (hv : v.present = true) :
    m.exported = some v := by
  obtain ⟨fields, rfl, hm⟩ := moduleOf_ok h
  have hexported := hm.exported
  rw [fieldOrNull_of_field hid, if_pos hv] at hexported
  exact hexported

theorem required_of_declared (h : moduleOf declaration folder = .ok m)
    (hitems : declaration.field? "ModuleDependancies" = some (.arr items)) :
    m.required = items.map Json.text := by
  obtain ⟨fields, rfl, hm⟩ := moduleOf_ok h
  have hrequired := hm.required
  rw [fieldOrNull_of_field hitems] at hrequired
  exact (Except.ok.inj hrequired).symm

/-- A module by itself exports what is its capability, as a text. -/
theorem exported_singleton (hm : m.exported = some v) {id : String} :
    Exported [m] id ↔ v = .str id := by
  constructor
  · rintro ⟨x, hx⟩
    obtain ⟨hmem, hexports⟩ := exporter?_some hx
    obtain rfl := List.mem_singleton.mp hmem
    exact Option.some.inj (hm.symm.trans (Module.exports_iff.mp hexports))
  · rintro rfl
    refine ⟨m, ?_⟩
    rw [exporter?, List.find?_cons, Module.exports_iff.mpr hm]

/-- **A capability meets a reference to it exactly if it is declared as a text.** Of two modules
one declares a capability and the other lists the same value among what it requires. The other
module resolves, and to that capability among others, exactly if all that it lists is the text that
the first one declares; else it lacks the first item that is not. So what it lacks is never a text
that the first one declares, and a capability that is no text is never found. -/
theorem resolve_declared (h : moduleOf declaration folder = .ok m)
    (h' : moduleOf declaration' folder' = .ok m')
    (hid : declaration.field? "APIId" = some v) (hv : v.present = true)
    (hitems : declaration'.field? "ModuleDependancies" = some (.arr items)) (hlisted : v ∈ items)
    (hboth : modules = [m, m'] ∧ i = 1 ∨ modules = [m', m] ∧ i = 0) :
    ((∃ ids, resolve (others modules i) m' = .ok ids) ↔ ∀ item ∈ items, v = .str item.text)
    ∧ (∀ ids, resolve (others modules i) m' = .ok ids → v.text ∈ ids)
    ∧ ∀ e, resolve (others modules i) m' = .error e →
      ∃ before item after, items = before ++ item :: after ∧ e = ⟨item.text, m'.name⟩
        ∧ (∀ x ∈ before, v = .str x.text) ∧ v ≠ .str item.text := by
  have hm := exported_of_declared h hid hv
  have hrequired := required_of_declared h' hitems
  have hothers : others modules i = [m] := by
    rcases hboth with ⟨rfl, rfl⟩ | ⟨rfl, rfl⟩
    · rfl
    · rfl
  rw [hothers]
  refine ⟨?_, fun ids hids => ?_, fun e he => ?_⟩
  · simp only [resolve_ok, exists_and_left, exists_eq, and_true, hrequired, List.forall_mem_map,
      exported_singleton hm]
  · obtain ⟨-, rfl⟩ := resolve_ok.mp hids
    refine mem_pushOptional.mpr (Or.inl (mem_foldl_push.mpr (Or.inr ?_)))
    rw [hrequired]
    exact List.mem_map_of_mem hlisted
  · obtain ⟨hname, before, after, hsplit, hbefore, hno⟩ := resolve_error he
    rw [hrequired, List.map_eq_append_iff] at hsplit
    obtain ⟨first, rest, rfl, rfl, hrest⟩ := hsplit
    obtain ⟨item, last, rfl, hitem, rfl⟩ := List.map_eq_cons_iff.mp hrest
    rw [exported_singleton hm, ← hitem] at hno
    refine ⟨first, item, last, rfl, ?_, fun x hx => ?_, hno⟩
    · rw [hitem, ← hname]
    · exact (exported_singleton hm).mp (hbefore _ (List.mem_map_of_mem hx))

/-! ## A text and a number -/

/-- A declaration of a capability. -/
def channelDeclaration (v : Json) : Json :=
  .obj [("Name", .str "Channel"), ("APIId", v)]

/-- A declaration that requires a capability. -/
def listenerDeclaration (v : Json) : Json :=
  .obj [("Name", .str "Listener"), ("ModuleDependancies", .arr [v])]

def channelModule (v : Json) (hv : v.present = true := by decide) : Module :=
  { name := "Channel", folder := ⟨.top, ["Channel"]⟩, author := .null, description := .null
    exported := some v, games := [], required := [], optional := [], flags := []
    extensionPoints := [], data := [], exported_present := hv }

def listenerModule (v : Json) : Module :=
  { (default : Module) with
    name := "Listener", folder := ⟨.top, ["Listener"]⟩, required := [v.text] }

theorem resolve_declared_text :
    ∃ ids, resolve (others [channelModule (.str "5"), listenerModule (.str "5")] 1)
        (listenerModule (.str "5")) = .ok ids ∧ "5" ∈ ids := by
  have hchannel : moduleOf (channelDeclaration (.str "5")) ⟨.top, ["Channel"]⟩
      = .ok (channelModule (.str "5")) := rfl
  have hlistener : moduleOf (listenerDeclaration (.str "5")) ⟨.top, ["Listener"]⟩
      = .ok (listenerModule (.str "5")) := rfl
  obtain ⟨hresolves, hmem, -⟩ := resolve_declared hchannel hlistener rfl (by decide) rfl
    (List.mem_singleton_self _) (Or.inl ⟨rfl, rfl⟩)
  obtain ⟨ids, hids⟩ := hresolves.mpr fun item hitem => by
    obtain rfl := List.mem_singleton.mp hitem
    rfl
  exact ⟨ids, hids, hmem ids hids⟩

/-- The number 5 is exported and required, and what is required is missing. -/
theorem resolve_declared_number :
    moduleOf (channelDeclaration (.int 5)) ⟨.top, ["Channel"]⟩ = .ok (channelModule (.int 5))
      ∧ moduleOf (listenerDeclaration (.int 5)) ⟨.top, ["Listener"]⟩
          = .ok (listenerModule (.int 5))
      ∧ resolve (others [channelModule (.int 5), listenerModule (.int 5)] 1)
          (listenerModule (.int 5)) = .error ⟨"5", "Listener"⟩ := by
  refine ⟨rfl, rfl, ?_⟩
  decide +kernel

end PatchForge.Capability
