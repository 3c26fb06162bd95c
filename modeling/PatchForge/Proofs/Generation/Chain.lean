import PatchForge.Proofs.Generation.Act

/-!
# Generation that ends well

A run of generation that ends well is a chain of stagings, each done at a
site, and the tree after it is read off the chain: the last file made at
a place lies there (`MadeAll.lastMade`), no folder went away
(`MadeAll.keepsFolders`) and a file elsewhere is untouched
(`MadeAll.file_iff`). As long as no target is a template, the final tree
is therefore ready for every staging of the chain once more
(`MadeAll.ready`).
-/

namespace PatchForge

open Work Disk

/-- The stagings were done at their sites, one after another. -/
inductive MadeAll (here : Place) : Disk → List (Staging × Site) → Disk → Prop where
  | nil (d : Disk) : MadeAll here d [] d
  | cons {d d₁ d' : Disk} {j : Staging} {s : Site} {l : List (Staging × Site)} :
      Made d here j s d₁ → MadeAll here d₁ l d' → MadeAll here d ((j, s) :: l) d'

/-- The file that was made last at a place. -/
def lastMade : List (Staging × Site) → Place → Option Entry
  | [], _ => none
  | (_, s) :: l, place => (lastMade l place).or (if place = s.target then some s.made else none)

variable {here : Place} {d d' : Disk} {l : List (Staging × Site)}

theorem lastMade_eq_none {place : Place} :
    ∀ {l : List (Staging × Site)}, lastMade l place = none ↔ ∀ e ∈ l, place ≠ e.2.target
  | [] => by simp [lastMade]
  | (j, s) :: l => by
      rw [lastMade, Option.or_eq_none_iff, lastMade_eq_none, List.forall_mem_cons]
      simp [and_comm]

theorem lastMade_file {place : Place} {entry : Entry} :
    ∀ {l : List (Staging × Site)}, lastMade l place = some entry →
      ∃ content, entry = .file content
  | (j, s) :: l, h => by
      rw [lastMade, Option.or_eq_some_iff] at h
      rcases h with h | ⟨-, h⟩
      · exact lastMade_file h
      · split at h
        · exact ⟨_, (Option.some.inj h).symm⟩
        · cases h

namespace MadeAll

/-! ## What the chain leaves -/

theorem keepsFolders (h : MadeAll here d l d') : KeepsFolders d d' := by
  induction h with
  | nil d => exact KeepsFolders.refl d
  | cons hmade _ ih => exact hmade.keepsFolders.trans ih

/-- Where nothing is made, files are neither changed nor new. -/
theorem file_iff (h : MadeAll here d l d') {place : Place} (content : ByteArray)
    (hp : ∀ e ∈ l, place ≠ e.2.target) :
    d'.get? place = some (.file content) ↔ d.get? place = some (.file content) := by
  induction h with
  | nil d => exact Iff.rfl
  | cons hmade _ ih =>
      rw [List.forall_mem_cons] at hp
      exact (ih hp.2).trans (hmade.changed.file_iff hp.1 content)

/-- Where something is made, the last file made is there in the end. -/
theorem lastMade (h : MadeAll here d l d') {place : Place} {entry : Entry}
    (hl : lastMade l place = some entry) : d'.get? place = some entry := by
  induction h with
  | nil d => cases hl
  | @cons d d₁ d' j s l hmade hrest ih =>
      rw [PatchForge.lastMade, Option.or_eq_some_iff] at hl
      rcases hl with hl | ⟨hnone, hl⟩
      · exact ih hl
      · split at hl
        · rename_i hplace
          cases hl
          subst hplace
          exact (hrest.file_iff s.output.toUTF8 (lastMade_eq_none.mp hnone)).mpr hmade.made
        · cases hl

/-- A target's place holds a file in the end. -/
theorem target_file (h : MadeAll here d l d') {j : Staging} {s : Site} (hmem : (j, s) ∈ l) :
    ∃ content, d'.get? s.target = some (.file content) := by
  cases hl : PatchForge.lastMade l s.target with
  | none => exact (lastMade_eq_none.mp hl (j, s) hmem rfl).elim
  | some entry =>
      obtain ⟨content, rfl⟩ := lastMade_file hl
      exact ⟨content, h.lastMade hl⟩

theorem target_not_folder (h : MadeAll here d l d') {e : Staging × Site} (he : e ∈ l) :
    d'.get? e.2.target ≠ some .folder := by
  obtain ⟨content, hfile⟩ := h.target_file he
  simp [hfile]

/-! ## What may be done again -/

/-- A staging of the chain was done between what came before it and what came after. -/
theorem split {l₁ l₂ : List (Staging × Site)} {j : Staging} {s : Site}
    (h : MadeAll here d (l₁ ++ (j, s) :: l₂) d') :
    ∃ d₁ d₂, MadeAll here d l₁ d₁ ∧ Made d₁ here j s d₂ ∧ MadeAll here d₂ l₂ d' := by
  induction l₁ generalizing d with
  | nil =>
      cases h with
      | cons hmade hrest => exact ⟨_, _, .nil _, hmade, hrest⟩
  | cons e l₁ ih =>
      cases h with
      | cons hmade hrest =>
          obtain ⟨d₁, d₂, hbefore, hmade', hafter⟩ := ih hrest
          exact ⟨d₁, d₂, .cons hmade hbefore, hmade', hafter⟩

variable {e : Staging × Site}

/-- All that a staging met is there afterwards, but for its template. -/
theorem leads (h : MadeAll here d l d') (hmem : e ∈ l) :
    ∃ dᵢ, Ready dᵢ here e.1 e.2 ∧ KeepsFolders dᵢ d' ∧ ∃ l', l' ⊆ l ∧ MadeAll here dᵢ l' d' := by
  obtain ⟨l₁, l₂, rfl⟩ := List.append_of_mem hmem
  obtain ⟨_, dᵢ, -, hmade, hafter⟩ := h.split
  refine ⟨dᵢ, hmade.ready, hafter.keepsFolders, l₂, fun x hx => ?_, hafter⟩
  exact List.mem_append_right _ (List.mem_cons_of_mem _ hx)

theorem target_leads (h : MadeAll here d l d') (hmem : e ∈ l) :
    d'.follow here e.1.target = .ok e.2.target := by
  obtain ⟨dᵢ, hready, hkeep, -⟩ := h.leads hmem
  exact follow_of_keepsFolders hkeep hready.target_leads

theorem source_leads (h : MadeAll here d l d') (hmem : e ∈ l) :
    d'.follow here e.1.source = .ok e.2.source := by
  obtain ⟨dᵢ, hready, hkeep, -⟩ := h.leads hmem
  exact follow_of_keepsFolders hkeep hready.source_leads

/-- Where no target is a template, the final tree is ready for every staging again. -/
theorem ready (h : MadeAll here d l d')
    (hsep : ∀ e ∈ l, ∀ e' ∈ l, e.2.source ≠ e'.2.target) {j : Staging} {s : Site}
    (hmem : (j, s) ∈ l) : Ready d' here j s := by
  obtain ⟨dᵢ, hready, hkeep, l', hsub, hl'⟩ := h.leads hmem
  obtain ⟨content, hfile⟩ := h.target_file hmem
  exact {
    source_null := hready.source_null
    target_null := hready.target_null
    apart := hready.apart
    source_leads := follow_of_keepsFolders hkeep hready.source_leads
    target_leads := follow_of_keepsFolders hkeep hready.target_leads
    parent_leads := hready.parent_leads.mono hkeep
    source_file := (hl'.file_iff s.content fun e he => hsep (j, s) hmem e (hsub he)).mpr
      hready.source_file
    target_free := by simp [hfile]
    decoded := hready.decoded
    rendered := hready.rendered }

end MadeAll

/-! ## Runs of acts -/

namespace Act

/-- What an act makes of the grants. -/
def grants : Act → IncludeTable → IncludeTable
  | .grant g => g
  | .make j => j.grants
  | _ => id

end Act

/-- What acts make of the grants, one after another. -/
def grantsAfter (acts : List Act) (t : IncludeTable) : IncludeTable :=
  acts.foldl (fun t a => a.grants t) t

theorem mem_stagings {acts : List Act} (hl : l.map Prod.fst = stagings acts)
    {e : Staging × Site} (he : e ∈ l) : e.1 ∈ stagings acts := by
  rw [← hl]
  exact List.mem_map_of_mem he

theorem mem_targets {acts : List Act} (hl : l.map Prod.fst = stagings acts) {p : Path} :
    p ∈ targets acts ↔ ∃ x ∈ l, x.1.target = p := by
  rw [targets, ← hl, List.map_map, List.mem_map]
  exact Iff.rfl

/-- A run that ends well is a chain of the stagings, and no act of it stops. -/
theorem performAll_ok {u : Unit} : ∀ {acts : List Act} {w w' : Workshop},
    (performAll acts).run w = (.ok u, w') →
      w'.here = w.here ∧ w'.grants = grantsAfter acts w.grants
      ∧ (∀ f, .stop f ∉ acts)
      ∧ ∃ l, l.map Prod.fst = stagings acts ∧ MadeAll w.here w.disk l w'.disk
  | [], w, w', h => by
      cases h
      exact ⟨rfl, rfl, by simp, [], rfl, .nil _⟩
  | a :: acts, w, w', h => by
      obtain ⟨_, w₁, ha, hacts⟩ := bind_ok.mp h
      obtain ⟨hhere, hgrants, hstop, l, hl, hmade⟩ := performAll_ok hacts
      cases a with
      | say n =>
          cases ha
          exact ⟨hhere, hgrants, by simpa using hstop, l, hl, hmade⟩
      | grant g =>
          cases ha
          exact ⟨hhere, hgrants, by simpa using hstop, l, hl, hmade⟩
      | stop f => cases ha
      | make j =>
          obtain ⟨hw₁, s, hs⟩ := Staging.perform_ok ha
          have hh : w₁.here = w.here := by
            rw [hw₁]
            rfl
          have hg : w₁.grants = j.grants w.grants := by
            rw [hw₁]
            rfl
          rw [hh] at hhere hmade
          rw [hg] at hgrants
          refine ⟨hhere, hgrants, by simpa using hstop, (j, s) :: l, ?_, .cons hs hmade⟩
          rw [List.map_cons, hl]
          rfl

end PatchForge
