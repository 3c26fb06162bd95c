import PatchForge.Proofs.Format.Plain
import PatchForge.Proofs.Rendering.Groups

/-!
# Rendering and the order of contributors

What is rendered from contributions depends on their order in one way
that is meant, the order of lines, and in one that is not. Grouping asks
for the template of a file only when the file comes up for the first
time, so a source format that does not apply is noticed or not,
depending on who comes first. Where all source formats apply, grouping
goes well in every order or in none.

Past that, all is said through membership: a group holds the records that
format to its text, a list has the texts of its records, and a value
agrees with all of them. None of these looks at the order
(`groups_permuted`).
-/

namespace PatchForge

open Format

/-- What a list placeholder lists. -/
def Placeholder.entries (p : Placeholder) (point : String) (records : List (List String)) :
    Except RenderFault (List String) :=
  (recordTexts p.format point records).map distinct

/-- The values of two lists of records agree: a scalar is the same, and a list has the same
entries, each once and in whatever order. -/
structure ValuesAgree (point : String) (placeholders : List Placeholder)
    (records records' : List (List String)) (values values' : Dict String String) : Prop where
  scalar : ∀ name p, placeholders.find? (·.name = name) = some p → p.isList = false →
    ∃ value, values.get? name = some value ∧ values'.get? name = some value
  list : ∀ name p, placeholders.find? (·.name = name) = some p → p.isList = true →
    ∃ entries entries', p.entries point records = .ok entries
      ∧ p.entries point records' = .ok entries' ∧ entries.Perm entries'
      ∧ values.get? name = some ("\n".intercalate entries)
      ∧ values'.get? name = some ("\n".intercalate entries')

theorem distinct_perm {texts texts' : List String} (h : ∀ t, t ∈ texts ↔ t ∈ texts') :
    (distinct texts).Perm (distinct texts') := by
  refine (List.perm_ext_iff_of_nodup (nodup_foldl_addNew List.nodup_nil)
    (nodup_foldl_addNew List.nodup_nil)).mpr fun t => ?_
  rw [mem_foldl_addNew, mem_foldl_addNew, h]

/-! ## The same records in another order -/

section

variable {point : String} {records records' : List (List String)}
  (hsame : ∀ r, r ∈ records ↔ r ∈ records')

include hsame

theorem exists_recordTexts_congr {format : String} :
    (∃ texts, recordTexts format point records = .ok texts)
      ↔ ∃ texts, recordTexts format point records' = .ok texts := by
  simp only [exists_recordTexts, hsame]

theorem mem_recordTexts_congr {format : String} {texts texts' : List String}
    (h : recordTexts format point records = .ok texts)
    (h' : recordTexts format point records' = .ok texts') (t : String) :
    t ∈ texts ↔ t ∈ texts' := by
  rw [mem_recordTexts h, mem_recordTexts h']
  simp only [hsame]

theorem collectScalar_of_same {p : Placeholder} {value : String}
    (h : collectScalar point p none records = .ok value) :
    collectScalar point p none records' = .ok value := by
  obtain ⟨texts, htexts, hagree, hempty⟩ := collectScalar_ok.mp h
  obtain ⟨texts', htexts'⟩ := (exists_recordTexts_congr hsame).mp ⟨texts, htexts⟩
  have hmem := mem_recordTexts_congr hsame htexts htexts'
  refine collectScalar_ok.mpr ⟨texts', htexts', fun t ht => hagree t ((hmem t).mpr ht), ?_⟩
  rintro rfl
  exact hempty (List.eq_nil_iff_forall_not_mem.mpr fun t ht => List.not_mem_nil ((hmem t).mp ht))

theorem exists_groupValue_of_same {p : Placeholder}
    (h : ∃ value, groupValue point records p = .ok value) :
    ∃ value, groupValue point records' p = .ok value := by
  obtain ⟨value, hvalue⟩ := h
  unfold groupValue at hvalue ⊢
  cases hlist : p.isList with
  | true =>
      rw [if_pos hlist] at hvalue
      obtain ⟨texts, htexts, -⟩ := Result.map_ok.mp hvalue
      obtain ⟨texts', htexts'⟩ := (exists_recordTexts_congr hsame).mp ⟨texts, htexts⟩
      exact ⟨_, Result.map_ok.mpr ⟨texts', htexts', rfl⟩⟩
  | false =>
      rw [if_neg (by simp [hlist])] at hvalue
      exact ⟨value, collectScalar_of_same hsame hvalue⟩

theorem exists_groupValues_of_same {placeholders : List Placeholder}
    (h : ∃ values, groupValues point placeholders records = .ok values) :
    ∃ values, groupValues point placeholders records' = .ok values := by
  unfold groupValues at h ⊢
  rw [Result.exists_mapM_ok] at h ⊢
  intro p hp
  obtain ⟨entry, hentry⟩ := h p hp
  obtain ⟨value, hvalue, -⟩ := Result.map_ok.mp hentry
  obtain ⟨value', hvalue'⟩ := exists_groupValue_of_same hsame ⟨value, hvalue⟩
  exact ⟨_, Result.map_ok.mpr ⟨value', hvalue', rfl⟩⟩

/-- The values of a group under both orders agree but for the order of lines. -/
theorem valuesAgree_of_same {placeholders : List Placeholder} {values values' : Dict String String}
    (h : groupValues point placeholders records = .ok values)
    (h' : groupValues point placeholders records' = .ok values') :
    ValuesAgree point placeholders records records' values values' where
  scalar name p hp hlist := by
    obtain ⟨value, hvalue, hget⟩ := (decisive_ok h).2 name p hp
    obtain ⟨value', hvalue', hget'⟩ := (decisive_ok h').2 name p hp
    rw [groupValue, if_neg (by simp [hlist])] at hvalue hvalue'
    have hagree := (collectScalar_of_same hsame hvalue).symm.trans hvalue'
    exact ⟨value, hget, hget'.trans (congrArg some (Except.ok.inj hagree).symm)⟩
  list name p hp hlist := by
    obtain ⟨value, hvalue, hget⟩ := (decisive_ok h).2 name p hp
    obtain ⟨value', hvalue', hget'⟩ := (decisive_ok h').2 name p hp
    rw [groupValue, if_pos hlist] at hvalue hvalue'
    obtain ⟨texts, htexts, rfl⟩ := Result.map_ok.mp hvalue
    obtain ⟨texts', htexts', rfl⟩ := Result.map_ok.mp hvalue'
    exact ⟨_, _, Result.map_ok.mpr ⟨texts, htexts, rfl⟩, Result.map_ok.mpr ⟨texts', htexts', rfl⟩,
      distinct_perm (mem_recordTexts_congr hsame htexts htexts'), hget, hget'⟩

end

/-! ## Contributions in another order -/

namespace ExtensionPoint

variable (p : ExtensionPoint)

theorem contributions_perm {modules modules' : List Module} (h : modules.Perm modules') :
    (p.contributions modules).Perm (p.contributions modules') := h.filterMap _

/-- Every record at hand has one text for each variable. -/
theorem length_of_contributions {modules : List Module} {r : List String}
    (h : r ∈ (p.contributions modules).flatMap (·.records)) : r.length = p.slots.length := by
  rw [records_contributions] at h
  obtain ⟨m, -, hr⟩ := List.mem_flatMap.mp h
  obtain ⟨record, -, rfl⟩ := List.mem_map.mp hr
  exact List.length_map ..

end ExtensionPoint

/-- **Load order.** Contributors in another order give groups of the same destinations with the
same records; the values of a group are found in both orders or in none; and found in both, the
scalars agree and the lists have the same entries. Whether there are groups does not depend on
the order either where each record has a text for every variable and the source formats are
plain and stay within the variables: one that does not is noticed only if its destination comes
up for the first time. -/
theorem groups_permuted (p : ExtensionPoint) {contributions contributions' : List Contribution}
    (hperm : contributions.Perm contributions') :
    ((∀ r ∈ contributions.flatMap (·.records), r.length = p.slots.length) →
        (∀ e ∈ p.formatPairs, ∃ t, e.1 = String.ofList (written t) ∧ Fits p.slots.length t) →
        ((∃ gs, groups p.name p.formatPairs contributions = .ok gs)
          ↔ ∃ gs, groups p.name p.formatPairs contributions' = .ok gs))
      ∧ ∀ gs gs', groups p.name p.formatPairs contributions = .ok gs →
        groups p.name p.formatPairs contributions' = .ok gs' →
          (gs.map (·.destination)).Perm (gs'.map (·.destination))
          ∧ ∀ g ∈ gs, ∀ g' ∈ gs', g.destination = g'.destination →
            g.records.Perm g'.records
            ∧ ((∃ values, groupValues p.name p.placeholders g.records = .ok values)
              ↔ ∃ values, groupValues p.name p.placeholders g'.records = .ok values)
            ∧ ∀ values values', groupValues p.name p.placeholders g.records = .ok values →
              groupValues p.name p.placeholders g'.records = .ok values' →
              ValuesAgree p.name p.placeholders g.records g'.records values values' := by
  have hrecords : ∀ r, r ∈ contributions.flatMap (·.records)
      ↔ r ∈ contributions'.flatMap (·.records) := fun r => (hperm.flatMap_right _).mem_iff
  constructor
  · intro hlength hsources
    have happly : ∀ r ∈ contributions.flatMap (·.records), ∀ e ∈ p.formatPairs,
        ∃ s, applyFormat e.1 r = .ok s := by
      intro r hr e he
      obtain ⟨t, ht, hfits⟩ := hsources e he
      rw [ht]
      exact applyFormat_written.mpr (hlength r hr ▸ hfits)
    rw [exists_groups_iff happly, exists_groups_iff fun r hr => happly r ((hrecords r).mpr hr)]
    simp only [hrecords]
  · intro gs gs' h h'
    constructor
    · refine (List.perm_ext_iff_of_nodup (groups_ok h).1 (groups_ok h').1).mpr fun d => ?_
      rw [mem_destinations_of_groups h, mem_destinations_of_groups h']
      simp only [hrecords]
    · intro g hg g' hg' hd
      have hsame : ∀ r, r ∈ g.records ↔ r ∈ g'.records := by
        intro r
        rw [mem_records_of_groups h hg, mem_records_of_groups h' hg', hd, hrecords]
      refine ⟨(List.perm_ext_iff_of_nodup (groups_tidy h g hg).2 (groups_tidy h' g' hg').2).mpr
        hsame, ⟨exists_groupValues_of_same hsame, ?_⟩, ?_⟩
      · exact exists_groupValues_of_same fun r => (hsame r).symm
      · exact fun values values' => valuesAgree_of_same hsame

/-! ### Two teams with one file for each team -/

/-- A file for every team, with a line for every player. -/
def teamPoint : ExtensionPoint :=
  { (default : ExtensionPoint) with
    name := "Team"
    templateSources := some ["Team.h"]
    templateDestinations := some ["codebuild/\x7b0\x7d.h"]
    slots := ["Team", "Player"]
    placeholders := [⟨"Team", "\x7b0\x7d"⟩, ⟨"PlayerList", "PLAYER(\x7b1\x7d)"⟩] }

def homeModule : Module :=
  { (default : Module) with
    name := "Home"
    data := [("Team", [[("Team", "Red"), ("Player", "Red")]])] }

def guestModule : Module :=
  { (default : Module) with
    name := "Guest"
    data := [("Team", [[("Team", "Blue"), ("Player", "Red")]])] }

theorem groups_permuted_teams :
    ∃ gs', groups "Team" teamPoint.formatPairs
        (teamPoint.contributions [guestModule, homeModule]) = .ok gs'
      ∧ ["codebuild/Red.h", "codebuild/Blue.h"].Perm (gs'.map (·.destination))
      ∧ ∀ g' ∈ gs', "codebuild/Red.h" = g'.destination →
        [["Red", "Red"]].Perm g'.records
        ∧ ∃ values, groupValues "Team" teamPoint.placeholders g'.records = .ok values := by
  have hgroups : groups "Team" teamPoint.formatPairs
      (teamPoint.contributions [homeModule, guestModule])
        = .ok [⟨"codebuild/Red.h", "Team.h", [["Red", "Red"]]⟩,
          ⟨"codebuild/Blue.h", "Team.h", [["Blue", "Red"]]⟩] := by
    decide +kernel
  have hvalues : groupValues "Team" teamPoint.placeholders [["Red", "Red"]]
      = .ok [("Team", "Red"), ("PlayerList", "PLAYER(Red)")] := by
    decide +kernel
  have hplain : ∀ e ∈ teamPoint.formatPairs, ∃ t, e.1 = String.ofList (written t) ∧ Fits 2 t := by
    intro e he
    obtain rfl := List.mem_singleton.mp he
    exact ⟨[.text "Team.h".toList], by decide +kernel, by simp [Fits]⟩
  obtain ⟨hexists, hsame⟩ := groups_permuted teamPoint
    (teamPoint.contributions_perm (List.Perm.swap guestModule homeModule []))
  obtain ⟨gs', hgs'⟩ :=
    (hexists (fun r => teamPoint.length_of_contributions) hplain).mp ⟨_, hgroups⟩
  obtain ⟨hdestinations, hrecords⟩ := hsame _ gs' hgroups hgs'
  refine ⟨gs', hgs', hdestinations, fun g' hg' hd => ?_⟩
  obtain ⟨hperm, hfound, -⟩ := hrecords _ (List.mem_cons_self ..) g' hg' hd
  exact ⟨hperm, hfound.mp ⟨_, hvalues⟩⟩

/-- A file for every team and for every player, the second from a template that is named by a
variable that is not there. -/
def rivalPoint : ExtensionPoint :=
  { teamPoint with
    templateSources := some ["Team.h", "\x7b9\x7d"]
    templateDestinations := some ["codebuild/\x7b0\x7d.h", "codebuild/\x7b1\x7d.h"] }

/-- If the team comes first, the file is there before the player's template is asked for; if the
player comes first, there are no groups. -/
theorem groups_permuted_rivals :
    rivalPoint.formatPairs
        = [(String.ofList (written [.text "Team.h".toList]),
            String.ofList (written [.text "codebuild/".toList, .slot 0, .text ".h".toList])),
          (String.ofList (written [.slot 9]),
            String.ofList (written [.text "codebuild/".toList, .slot 1, .text ".h".toList]))]
      ∧ (rivalPoint.contributions [homeModule, guestModule]).Perm
          (rivalPoint.contributions [guestModule, homeModule])
      ∧ groups "Team" rivalPoint.formatPairs
          (rivalPoint.contributions [homeModule, guestModule])
        = .ok [⟨"codebuild/Red.h", "Team.h", [["Red", "Red"], ["Blue", "Red"]]⟩,
          ⟨"codebuild/Blue.h", "Team.h", [["Blue", "Red"]]⟩]
      ∧ groups "Team" rivalPoint.formatPairs
          (rivalPoint.contributions [guestModule, homeModule])
        = .error (.format "\x7b9\x7d" "Team" (.slotBeyond 2)) := by
  refine ⟨by decide +kernel, ?_, by decide +kernel, by decide +kernel⟩
  exact rivalPoint.contributions_perm (List.Perm.swap guestModule homeModule [])

end PatchForge
