import Mathlib.Data.List.Nodup
import PatchForge.Proofs.Rendering.Values

/-!
# Groups of records

Records are grouped by the text of their destination. One step puts one
record into the group of its text, making that group if it is new
(`addToGroups_ok`), so over all steps each text has one group, and the
group holds exactly the records that format to its text (`groups_ok`).

The texts are compared as texts. Two that differ in a slash make two
groups, whatever file they name.
-/

namespace PatchForge

namespace Group

@[simp] theorem add_destination (g : Group) (record : List String) :
    (g.add record).destination = g.destination := by
  unfold add
  split <;> rfl

theorem add_records (g : Group) (record : List String) :
    (g.add record).records = addNew g.records record := by
  unfold add addNew
  split <;> rfl

theorem mem_add {g : Group} {record r : List String} :
    r ∈ (g.add record).records ↔ r ∈ g.records ∨ r = record := by
  rw [add_records]
  exact mem_addNew

end Group

/-- The record is in the group of the destination. -/
def InGroup (gs : List Group) (destination : String) (record : List String) : Prop :=
  ∃ g ∈ gs, g.destination = destination ∧ record ∈ g.records

theorem inGroup_append {gs gs' : List Group} {d : String} {r : List String} :
    InGroup (gs ++ gs') d r ↔ InGroup gs d r ∨ InGroup gs' d r := by
  simp only [InGroup, List.mem_append, or_and_right, exists_or]

theorem inGroup_cons {g : Group} {gs : List Group} {d : String} {r : List String} :
    InGroup (g :: gs) d r ↔ (g.destination = d ∧ r ∈ g.records) ∨ InGroup gs d r := by
  simp only [InGroup, List.mem_cons, or_and_right, exists_or, exists_eq_left]

variable {destination point : String} {source : Except RenderFault String}
  {record : List String} {gs gs' : List Group}

/-- A record goes into the first group of its destination, or into a new one at the end. -/
theorem addToGroups_ok : ∀ {gs gs' : List Group},
    addToGroups destination source record gs = .ok gs' →
      (∃ l g r, gs = l ++ g :: r ∧ g.destination = destination ∧ gs' = l ++ g.add record :: r)
      ∨ (∀ g ∈ gs, g.destination ≠ destination)
        ∧ ∃ s, source = .ok s ∧ gs' = gs ++ [⟨destination, s, [record]⟩]
  | [], gs', h => by
      obtain ⟨s, hs, rfl⟩ := Result.map_ok.mp h
      exact Or.inr ⟨nofun, s, hs, rfl⟩
  | g :: gs, gs', h => by
      unfold addToGroups at h
      split at h
      · rename_i hg
        cases h
        exact Or.inl ⟨[], g, gs, rfl, hg, rfl⟩
      · rename_i hg
        obtain ⟨rest, hrest, rfl⟩ := Result.map_ok.mp h
        rcases addToGroups_ok hrest with ⟨l, g₁, r, rfl, hg₁, rfl⟩ | ⟨hno, s, hs, rfl⟩
        · exact Or.inl ⟨g :: l, g₁, r, rfl, hg₁, rfl⟩
        · exact Or.inr ⟨List.forall_mem_cons.mpr ⟨hg, hno⟩, s, hs, rfl⟩

theorem addToGroups_nodup (h : addToGroups destination source record gs = .ok gs')
    (hn : (gs.map (·.destination)).Nodup) : (gs'.map (·.destination)).Nodup := by
  rcases addToGroups_ok h with ⟨l, g, r, rfl, -, rfl⟩ | ⟨hno, s, -, rfl⟩
  · simpa using hn
  · rw [List.map_append, List.nodup_append]
    refine ⟨hn, by simp, ?_⟩
    rintro _ ha _ hb rfl
    obtain ⟨g, hg, hgd⟩ := List.mem_map.mp ha
    exact hno g hg (hgd.trans (List.mem_singleton.mp hb))

theorem addToGroups_inGroup (h : addToGroups destination source record gs = .ok gs')
    (d : String) (r : List String) :
    InGroup gs' d r ↔ InGroup gs d r ∨ d = destination ∧ r = record := by
  rcases addToGroups_ok h with ⟨before, g, after, rfl, rfl, rfl⟩ | ⟨-, s, -, rfl⟩
  · rw [inGroup_append, inGroup_append, inGroup_cons, inGroup_cons, Group.add_destination,
      Group.mem_add, and_or_left, or_assoc, or_assoc, eq_comm (a := d), or_assoc]
    exact or_congr_right (or_congr_right or_comm)
  · rw [inGroup_append, inGroup_cons, eq_comm (a := d), List.mem_singleton]
    refine or_congr_right (or_iff_left ?_)
    rintro ⟨g, hg, -⟩
    cases hg

theorem groupFrom_ok : ∀ {items : List (List String × String × String)} {gs gs' : List Group},
    groupFrom point gs items = .ok gs' → (gs.map (·.destination)).Nodup →
      (gs'.map (·.destination)).Nodup
      ∧ (∀ e ∈ items, ∃ d, applyFormat e.2.2 e.1 = .ok d)
      ∧ ∀ d r, InGroup gs' d r ↔
          InGroup gs d r ∨ ∃ e ∈ items, e.1 = r ∧ applyFormat e.2.2 r = .ok d
  | [], gs, gs', h, hn => by
      cases h
      exact ⟨hn, by simp, by simp⟩
  | (record, source, destination) :: items, gs, gs', h, hn => by
      rw [groupFrom] at h
      split at h
      · cases h
      · rename_i name hname
        split at h
        · cases h
        · rename_i gs₁ hgs₁
          rw [formatRecord_ok] at hname
          obtain ⟨hn', hall, hmem⟩ := groupFrom_ok h (addToGroups_nodup hgs₁ hn)
          refine ⟨hn', List.forall_mem_cons.mpr ⟨⟨name, hname⟩, hall⟩, fun d r => ?_⟩
          rw [hmem, addToGroups_inGroup hgs₁, or_assoc]
          refine or_congr_right ?_
          simp only [List.mem_cons, or_and_right, exists_or, exists_eq_left]
          refine or_congr_left ?_
          constructor
          · rintro ⟨rfl, rfl⟩
            exact ⟨rfl, hname⟩
          · rintro ⟨rfl, hd⟩
            exact ⟨Except.ok.inj (hd.symm.trans hname), rfl⟩

/-- Each text has one group, and the records of a group are those that format to its text. -/
theorem groups_ok {pairs : List (String × String)} {contributions : List Contribution}
    (h : groups point pairs contributions = .ok gs) :
    (gs.map (·.destination)).Nodup
      ∧ (∀ r ∈ contributions.flatMap (·.records), ∀ e ∈ pairs, ∃ d, applyFormat e.2 r = .ok d)
      ∧ ∀ d r, InGroup gs d r ↔
          r ∈ contributions.flatMap (·.records) ∧ ∃ e ∈ pairs, applyFormat e.2 r = .ok d := by
  obtain ⟨hn, hall, hmem⟩ := groupFrom_ok h List.nodup_nil
  refine ⟨hn, fun r hr e he => ?_, fun d r => ?_⟩
  · refine hall (r, e.1, e.2) (List.mem_flatMap.mpr ⟨r, hr, List.mem_map.mpr ⟨e, he, rfl⟩⟩)
  · rw [hmem]
    constructor
    · rintro (⟨g, hg, -⟩ | ⟨_, hitem, rfl, hd⟩)
      · cases hg
      · obtain ⟨r, hr, hpair⟩ := List.mem_flatMap.mp hitem
        obtain ⟨e, he, rfl⟩ := List.mem_map.mp hpair
        exact ⟨hr, e, he, hd⟩
    · rintro ⟨hr, e, he, hd⟩
      exact Or.inr ⟨(r, e.1, e.2),
        List.mem_flatMap.mpr ⟨r, hr, List.mem_map.mpr ⟨e, he, rfl⟩⟩, rfl, hd⟩

/-! ## Records of a group -/

/-- No group is empty or has a record twice. -/
def TidyGroups (gs : List Group) : Prop := ∀ g ∈ gs, g.records ≠ [] ∧ g.records.Nodup

theorem addToGroups_tidy (h : addToGroups destination source record gs = .ok gs')
    (ht : TidyGroups gs) : TidyGroups gs' := by
  rcases addToGroups_ok h with ⟨before, g, after, rfl, -, rfl⟩ | ⟨-, s, -, rfl⟩
  · intro x hx
    rcases List.mem_append.mp hx with hx | hx
    · exact ht x (List.mem_append_left _ hx)
    · rcases List.mem_cons.mp hx with rfl | hx
      · obtain ⟨hne, hnodup⟩ := ht g (List.mem_append_right _ (List.mem_cons_self ..))
        obtain ⟨r, hr⟩ := List.exists_mem_of_ne_nil _ hne
        refine ⟨List.ne_nil_of_mem (Group.mem_add.mpr (Or.inl hr)), ?_⟩
        rw [Group.add_records]
        exact nodup_addNew hnodup
      · exact ht x (List.mem_append_right _ (List.mem_cons_of_mem _ hx))
  · intro x hx
    rcases List.mem_append.mp hx with hx | hx
    · exact ht x hx
    · rw [List.mem_singleton.mp hx]
      exact ⟨List.cons_ne_nil _ _, List.nodup_singleton _⟩

theorem groupFrom_tidy : ∀ {items : List (List String × String × String)} {gs gs' : List Group},
    groupFrom point gs items = .ok gs' → TidyGroups gs → TidyGroups gs'
  | [], gs, gs', h, ht => by
      cases h
      exact ht
  | (record, source, destination) :: items, gs, gs', h, ht => by
      rw [groupFrom] at h
      split at h
      · cases h
      · split at h
        · cases h
        · rename_i gs₁ hgs₁
          exact groupFrom_tidy h (addToGroups_tidy hgs₁ ht)

theorem groups_tidy {pairs : List (String × String)} {contributions : List Contribution}
    (h : groups point pairs contributions = .ok gs) : TidyGroups gs :=
  groupFrom_tidy h nofun

/-- The records of a group are those that format to its text. -/
theorem mem_records_of_groups {pairs : List (String × String)}
    {contributions : List Contribution} (h : groups point pairs contributions = .ok gs)
    {g : Group} (hg : g ∈ gs) {r : List String} :
    r ∈ g.records ↔ r ∈ contributions.flatMap (·.records)
      ∧ ∃ e ∈ pairs, applyFormat e.2 r = .ok g.destination := by
  obtain ⟨hn, -, hmem⟩ := groups_ok h
  rw [← hmem]
  constructor
  · exact fun hr => ⟨g, hg, rfl, hr⟩
  · rintro ⟨g', hg', hd, hr⟩
    rwa [← List.inj_on_of_nodup_map hn hg' hg hd]

theorem mem_destinations_of_groups {pairs : List (String × String)}
    {contributions : List Contribution} (h : groups point pairs contributions = .ok gs)
    {d : String} :
    d ∈ gs.map (·.destination) ↔ ∃ r ∈ contributions.flatMap (·.records),
      ∃ e ∈ pairs, applyFormat e.2 r = .ok d := by
  obtain ⟨-, -, hmem⟩ := groups_ok h
  constructor
  · intro hd
    obtain ⟨g, hg, rfl⟩ := List.mem_map.mp hd
    obtain ⟨r, hr⟩ := List.exists_mem_of_ne_nil _ (groups_tidy h g hg).1
    exact ⟨r, (mem_records_of_groups h hg).mp hr⟩
  · rintro ⟨r, hr⟩
    obtain ⟨g, hg, hd, -⟩ := (hmem d r).mpr hr
    exact List.mem_map.mpr ⟨g, hg, hd⟩

/-! ## When there are groups -/

theorem exists_addToGroups {s : String} (h : source = .ok s) :
    ∀ gs, ∃ gs', addToGroups destination source record gs = .ok gs'
  | [] => by
      rw [h]
      exact ⟨_, rfl⟩
  | g :: gs => by
      obtain ⟨gs', hgs'⟩ := exists_addToGroups h gs
      unfold addToGroups
      split
      · exact ⟨_, rfl⟩
      · exact ⟨_, Result.map_ok.mpr ⟨gs', hgs', rfl⟩⟩

theorem exists_groupFrom : ∀ {items : List (List String × String × String)} {gs : List Group},
    (∀ e ∈ items, (∃ s, applyFormat e.2.1 e.1 = .ok s) ∧ ∃ d, applyFormat e.2.2 e.1 = .ok d) →
      ∃ gs', groupFrom point gs items = .ok gs'
  | [], gs, _ => ⟨gs, rfl⟩
  | (record, source, destination) :: items, gs, h => by
      obtain ⟨⟨⟨s, hs⟩, name, hname⟩, hitems⟩ := List.forall_mem_cons.mp h
      have hs' : formatRecord source record point = .ok s := formatRecord_ok.mpr hs
      have hname' : formatRecord destination record point = .ok name := formatRecord_ok.mpr hname
      obtain ⟨gs₁, hgs₁⟩ : ∃ gs₁, addToGroups name (formatRecord source record point) record gs
          = .ok gs₁ := exists_addToGroups hs' gs
      obtain ⟨gs', hgs'⟩ : ∃ gs', groupFrom point gs₁ items = .ok gs' := exists_groupFrom hitems
      refine ⟨gs', ?_⟩
      rw [groupFrom, hname']
      dsimp only
      rw [hgs₁]
      exact hgs'

/-- Where every source format applies, grouping fails only by a destination. -/
theorem exists_groups_iff {pairs : List (String × String)} {contributions : List Contribution}
    (hsources : ∀ r ∈ contributions.flatMap (·.records), ∀ e ∈ pairs,
      ∃ s, applyFormat e.1 r = .ok s) :
    (∃ gs, groups point pairs contributions = .ok gs) ↔
      ∀ r ∈ contributions.flatMap (·.records), ∀ e ∈ pairs, ∃ d, applyFormat e.2 r = .ok d := by
  constructor
  · rintro ⟨gs, h⟩
    exact (groups_ok h).2.1
  · intro hdestinations
    refine exists_groupFrom fun item hitem => ?_
    obtain ⟨r, hr, hpair⟩ := List.mem_flatMap.mp hitem
    obtain ⟨e, he, rfl⟩ := List.mem_map.mp hpair
    exact ⟨hsources r hr e he, hdestinations r hr e he⟩

/-! ## Why there are none -/

theorem formatRecord_error {template : String} {fault : RenderFault}
    (h : formatRecord template record point = .error fault) :
    ∃ cause, fault = .format template point cause := by
  obtain ⟨cause, -, hfault⟩ := Result.mapError_error.mp h
  exact ⟨cause, hfault.symm⟩

theorem addToGroups_error {fault : RenderFault} : ∀ {gs : List Group},
    addToGroups destination source record gs = .error fault → source = .error fault
  | [], h => Result.map_error.mp h
  | g :: gs, h => by
      unfold addToGroups at h
      split at h
      · cases h
      · exact addToGroups_error (Result.map_error.mp h)

theorem groupFrom_error {fault : RenderFault} :
    ∀ {items : List (List String × String × String)} {gs : List Group},
      groupFrom point gs items = .error fault →
        ∃ e ∈ items, ∃ template, (template = e.2.1 ∨ template = e.2.2)
          ∧ ∃ cause, fault = .format template point cause
  | (record, source, destination) :: items, gs, h => by
      rw [groupFrom] at h
      split at h
      · rename_i hdestination
        cases h
        exact ⟨_, List.mem_cons_self .., destination, Or.inr rfl, formatRecord_error hdestination⟩
      · split at h
        · rename_i hadd
          cases h
          exact ⟨_, List.mem_cons_self .., source, Or.inl rfl,
            formatRecord_error (addToGroups_error hadd)⟩
        · obtain ⟨e, he, hfault⟩ := groupFrom_error h
          exact ⟨e, List.mem_cons_of_mem _ he, hfault⟩

/-- Grouping fails by a source or destination format that does not apply, never by a value. -/
theorem groups_error {pairs : List (String × String)} {contributions : List Contribution}
    {fault : RenderFault} (h : groups point pairs contributions = .error fault) :
    ∃ e ∈ pairs, ∃ template, (template = e.1 ∨ template = e.2)
      ∧ ∃ cause, fault = .format template point cause := by
  obtain ⟨item, hitem, hfault⟩ := groupFrom_error h
  obtain ⟨r, -, hpair⟩ := List.mem_flatMap.mp hitem
  obtain ⟨e, he, rfl⟩ := List.mem_map.mp hpair
  exact ⟨e, he, hfault⟩

end PatchForge
