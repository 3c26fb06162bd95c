import PatchForge.Proofs.Rendering.Groups

/-!
# Groups in the order of their first record

Grouping goes through the records of all contributors, each record under
each pair of formats (`visits`), and a visit comes to the text that its
destination format makes of its record (`Reaches`). What grouping gives is
said by the visits alone: the destinations are the texts that are
reached, in the order in which they are first reached, and a group has
the records that reach its text, in order and each once
(`groups_firstSeen`).

The proof looks at one text at a time. A step of grouping changes the
group of the text it reaches and no other (`groupOf_add_other`), so a
group is made by the first visit to its text and only grows afterwards
(`groupFrom_unmade`, `groupFrom_made`). This is also why the source format is
asked for the first visit alone, and why grouping fails exactly if a
destination format fails, or the source format of such a first visit
(`groups_error_iff`).
-/

namespace PatchForge

/-- A record under the formats of a source and of a destination. -/
abbrev Visit := List String × String × String

/-- The visits in the order in which grouping goes through them. -/
def visits (pairs : List (String × String)) (contributions : List Contribution) : List Visit :=
  (contributions.flatMap (·.records)).flatMap fun r => pairs.map fun e => (r, e.1, e.2)

/-- The destination format makes this text of the record. -/
abbrev Reaches (v : Visit) (d : String) : Prop := applyFormat v.2.2 v.1 = .ok d

/-- The group of a destination. -/
def groupOf (gs : List Group) (d : String) : Option Group := gs.find? (·.destination = d)

variable {point d destination : String} {source : Except RenderFault String}
  {record : List String} {g : Group} {gs gs' : List Group} {items : List Visit}

theorem groupOf_of_mem (hn : (gs.map (·.destination)).Nodup) (hg : g ∈ gs) :
    groupOf gs g.destination = some g := by
  induction gs with
  | nil => cases hg
  | cons g' gs ih =>
      obtain ⟨hnew, hrest⟩ := List.nodup_cons.mp hn
      rcases List.mem_cons.mp hg with rfl | hg
      · exact List.find?_cons_of_pos (by simp)
      · have hother : g'.destination ≠ g.destination :=
          fun h => hnew (List.mem_map.mpr ⟨g, hg, h.symm⟩)
        exact (List.find?_cons_of_neg (by simpa using hother)).trans (ih hrest hg)

/-! ## One visit -/

/-- The visit joins the group of its destination, or makes it. -/
theorem groupOf_add_self : ∀ {gs gs' : List Group},
    addToGroups destination source record gs = .ok gs' →
      (∃ g, groupOf gs destination = some g ∧ groupOf gs' destination = some (g.add record))
      ∨ groupOf gs destination = none
        ∧ ∃ s, source = .ok s ∧ groupOf gs' destination = some ⟨destination, s, [record]⟩
  | [], gs', h => by
      obtain ⟨s, hs, rfl⟩ := Result.map_ok.mp h
      exact Or.inr ⟨rfl, s, hs, List.find?_cons_of_pos (by simp)⟩
  | g :: gs, gs', h => by
      unfold addToGroups at h
      split at h
      · rename_i hg
        cases h
        exact Or.inl ⟨g, List.find?_cons_of_pos (by simpa using hg),
          List.find?_cons_of_pos (by simpa using hg)⟩
      · rename_i hg
        obtain ⟨rest, hrest, rfl⟩ := Result.map_ok.mp h
        have hskip : ∀ l : List Group, groupOf (g :: l) destination = groupOf l destination :=
          fun l => List.find?_cons_of_neg (by simpa using hg)
        rw [hskip, hskip]
        exact groupOf_add_self hrest

theorem groupOf_add_other (h : addToGroups destination source record gs = .ok gs')
    (hd : d ≠ destination) : groupOf gs' d = groupOf gs d := by
  unfold groupOf
  rcases addToGroups_ok h with ⟨before, g, after, rfl, hg, rfl⟩ | ⟨-, s, -, rfl⟩
  · have hne : ¬ g.destination = d := fun h => hd (h.symm.trans hg)
    rw [List.find?_append, List.find?_append, List.find?_cons_of_neg (by simpa using hne),
      List.find?_cons_of_neg (by simpa using hne)]
  · rw [List.find?_append, List.find?_cons_of_neg (by simpa using Ne.symm hd), List.find?_nil,
      Option.or_none]

theorem destinations_add (h : addToGroups destination source record gs = .ok gs') :
    gs'.map (·.destination) = addNew (gs.map (·.destination)) destination := by
  rcases addToGroups_ok h with ⟨before, g, after, rfl, hg, rfl⟩ | ⟨hno, s, -, rfl⟩
  · rw [addNew, if_pos]
    · simp
    · simp [hg]
  · rw [addNew, if_neg]
    · simp
    · simpa [List.mem_map] using hno

/-- No group is made for lack of a source only where there is none. -/
theorem groupOf_add_error {fault : RenderFault} : ∀ {gs : List Group},
    addToGroups destination source record gs = .error fault → groupOf gs destination = none
  | [], _ => rfl
  | g :: gs, h => by
      unfold addToGroups at h
      split at h
      · cases h
      · rename_i hg
        exact (List.find?_cons_of_neg (by simpa using hg)).trans
          (groupOf_add_error (Result.map_error.mp h))

/-! ## All visits -/

/-- The first visit goes well, and the others go on from what it leaves. -/
theorem groupFrom_cons {v : Visit} (h : groupFrom point gs (v :: items) = .ok gs') :
    ∃ name gs₁, Reaches v name
      ∧ addToGroups name (formatRecord v.2.1 v.1 point) v.1 gs = .ok gs₁
      ∧ groupFrom point gs₁ items = .ok gs' := by
  rw [groupFrom] at h
  split at h
  · cases h
  · rename_i name hname
    split at h
    · cases h
    · rename_i gs₁ hgs₁
      exact ⟨name, gs₁, formatRecord_ok.mp hname, hgs₁, h⟩

/-- The destinations are the texts reached, in the order in which they are first reached. -/
theorem groupFrom_destinations : ∀ {items : List Visit} {gs gs' : List Group},
    groupFrom point gs items = .ok gs' → ∃ names, List.Forall₂ Reaches items names
      ∧ gs'.map (·.destination) = names.foldl addNew (gs.map (·.destination))
  | [], gs, gs', h => by
      cases h
      exact ⟨[], .nil, rfl⟩
  | v :: items, gs, gs', h => by
      obtain ⟨name, gs₁, hname, hadd, hrest⟩ := groupFrom_cons h
      obtain ⟨names, hnames, hkeys⟩ := groupFrom_destinations hrest
      refine ⟨name :: names, .cons hname hnames, ?_⟩
      rw [hkeys, List.foldl_cons, destinations_add hadd]

/-- A group that is there takes in the records that reach its text. -/
theorem groupFrom_made : ∀ {items : List Visit} {gs gs' : List Group} {g : Group},
    groupFrom point gs items = .ok gs' → groupOf gs d = some g →
      groupOf gs' d = some { g with
        records := ((items.filter (Reaches · d)).map (·.1)).foldl addNew g.records }
  | [], gs, gs', g, h, hg => by
      cases h
      exact hg
  | v :: items, gs, gs', g, h, hg => by
      obtain ⟨name, gs₁, hname, hadd, hrest⟩ := groupFrom_cons h
      by_cases hd : d = name
      · subst hd
        rcases groupOf_add_self hadd with ⟨g₁, hg₁, hmade⟩ | ⟨hnone, -⟩
        · obtain rfl := Option.some.inj (hg.symm.trans hg₁)
          rw [groupFrom_made hrest hmade, List.filter_cons_of_pos (by simpa using hname),
            List.map_cons, List.foldl_cons, Group.add_records]
          unfold Group.add
          split <;> rfl
        · rw [hnone] at hg
          cases hg
      · have hskip : ¬ Reaches v d := fun h => hd (Except.ok.inj (h.symm.trans hname))
        rw [List.filter_cons_of_neg (by simpa using hskip)]
        exact groupFrom_made hrest ((groupOf_add_other hadd hd).trans hg)

/-- A group that is not there is made by the first visit to its text, from the source that this
visit names. -/
theorem groupFrom_unmade {v : Visit} {vs : List Visit} :
    ∀ {items : List Visit} {gs gs' : List Group},
      groupFrom point gs items = .ok gs' → groupOf gs d = none →
      items.filter (Reaches · d) = v :: vs →
      ∃ s, applyFormat v.2.1 v.1 = .ok s
        ∧ groupOf gs' d = some ⟨d, s, (vs.map (·.1)).foldl addNew [v.1]⟩
  | [], _, _, _, _, hv => by cases hv
  | u :: items, gs, gs', h, hnone, hv => by
      obtain ⟨name, gs₁, hname, hadd, hrest⟩ := groupFrom_cons h
      by_cases hd : d = name
      · subst hd
        rw [List.filter_cons_of_pos (by simpa using hname)] at hv
        obtain ⟨rfl, rfl⟩ := List.cons.inj hv
        rcases groupOf_add_self hadd with ⟨g, hg, -⟩ | ⟨-, s, hs, hmade⟩
        · rw [hnone] at hg
          cases hg
        · exact ⟨s, formatRecord_ok.mp hs, groupFrom_made hrest hmade⟩
      · have hskip : ¬ Reaches u d := fun h => hd (Except.ok.inj (h.symm.trans hname))
        rw [List.filter_cons_of_neg (by simpa using hskip)] at hv
        exact groupFrom_unmade hrest ((groupOf_add_other hadd hd).trans hnone) hv

/-- Where a group is missing in the end, no visit came to its text. -/
theorem groupFrom_missing : ∀ {items : List Visit} {gs gs' : List Group},
    groupFrom point gs items = .ok gs' → groupOf gs' d = none →
      groupOf gs d = none ∧ ∀ v ∈ items, ¬ Reaches v d
  | [], gs, gs', h, hnone => by
      cases h
      exact ⟨hnone, nofun⟩
  | v :: items, gs, gs', h, hnone => by
      obtain ⟨name, gs₁, hname, hadd, hrest⟩ := groupFrom_cons h
      obtain ⟨hnone₁, hitems⟩ := groupFrom_missing hrest hnone
      have hd : d ≠ name := by
        rintro rfl
        rcases groupOf_add_self hadd with ⟨g, -, hmade⟩ | ⟨-, s, -, hmade⟩
        · rw [hnone₁] at hmade
          cases hmade
        · rw [hnone₁] at hmade
          cases hmade
      refine ⟨(groupOf_add_other hadd hd).symm.trans hnone₁, List.forall_mem_cons.mpr ⟨?_, hitems⟩⟩
      exact fun h => hd (Except.ok.inj (h.symm.trans hname))

/-- Grouping breaks off at a visit whose destination format does not apply, or which would make
a group and whose source format does not apply. -/
theorem groupFrom_broken {fault : RenderFault} : ∀ {items : List Visit} {gs : List Group},
    groupFrom point gs items = .error fault →
      ∃ before v after gs', items = before ++ v :: after ∧ groupFrom point gs before = .ok gs'
        ∧ ((∃ cause, applyFormat v.2.2 v.1 = .error cause ∧ fault = .format v.2.2 point cause)
          ∨ ∃ d cause, Reaches v d ∧ groupOf gs' d = none
            ∧ applyFormat v.2.1 v.1 = .error cause ∧ fault = .format v.2.1 point cause)
  | [], gs, h => by cases h
  | v :: items, gs, h => by
      rw [groupFrom] at h
      split at h
      · rename_i hname
        cases h
        obtain ⟨cause, hcause, rfl⟩ := Result.mapError_error.mp hname
        exact ⟨[], v, items, gs, rfl, rfl, Or.inl ⟨cause, hcause, rfl⟩⟩
      · rename_i name hname
        split at h
        · rename_i hadd
          cases h
          obtain ⟨cause, hcause, rfl⟩ := Result.mapError_error.mp (addToGroups_error hadd)
          exact ⟨[], v, items, gs, rfl, rfl,
            Or.inr ⟨name, cause, formatRecord_ok.mp hname, groupOf_add_error hadd, hcause, rfl⟩⟩
        · rename_i gs₁ hadd
          obtain ⟨before, u, after, gs', rfl, hbefore, hbroken⟩ := groupFrom_broken h
          refine ⟨v :: before, u, after, gs', rfl, ?_, hbroken⟩
          rw [groupFrom, hname]
          dsimp only
          rw [hadd]
          exact hbefore

/-- Grouping breaks off at a visit that comes nowhere, or at a first visit without a source. -/
theorem groupFrom_breaks {fault : RenderFault} {items : List Visit} {gs : List Group}
    (h : groupFrom point gs items = .error fault) :
    (∃ v ∈ items, ∀ d, ¬ Reaches v d)
      ∨ ∃ d v, groupOf gs d = none ∧ items.find? (Reaches · d) = some v
        ∧ ∀ s, applyFormat v.2.1 v.1 ≠ .ok s := by
  obtain ⟨before, v, after, gs', rfl, hbefore, hbroken⟩ := groupFrom_broken h
  rcases hbroken with ⟨cause, hcause, -⟩ | ⟨d, cause, hd, hmissing, hcause, -⟩
  · refine Or.inl ⟨v, List.mem_append_right _ (List.mem_cons_self ..), fun d hd => ?_⟩
    rw [Reaches, hcause] at hd
    cases hd
  · obtain ⟨hnone, hothers⟩ := groupFrom_missing hbefore hmissing
    refine Or.inr ⟨d, v, hnone, ?_, fun s hs => ?_⟩
    · have hbefore : before.find? (Reaches · d) = none :=
        List.find?_eq_none.mpr fun u hu => by simpa using hothers u hu
      rw [List.find?_append, hbefore, List.find?_cons_of_pos (by simpa using hd)]
      rfl
    · rw [hcause] at hs
      cases hs

/-! ## Records and their visits -/

/-- A list that has the elements takes none of them in. -/
theorem foldl_addNew_of_mem {records l : List (List String)} (h : ∀ r ∈ records, r ∈ l) :
    records.foldl addNew l = l := by
  induction records with
  | nil => rfl
  | cons r records ih =>
      obtain ⟨hr, hrecords⟩ := List.forall_mem_cons.mp h
      rw [List.foldl_cons, addNew, if_pos (List.contains_iff_mem.mpr hr), ih hrecords]

/-- Of copies side by side one counts, and none where there are no copies. -/
theorem foldl_addNew_copies {copies : List String → List (List String)}
    (hcopies : ∀ r, ∀ r' ∈ copies r, r' = r) : ∀ {records l : List (List String)},
    (records.flatMap copies).foldl addNew l = (records.filter (copies · ≠ [])).foldl addNew l
  | [], l => rfl
  | r :: records, l => by
      rw [List.flatMap_cons, List.foldl_append, foldl_addNew_copies hcopies]
      cases hr : copies r with
      | nil => rw [List.filter_cons_of_neg (by simp [hr]), List.foldl_nil]
      | cons r' more =>
          have hall : ∀ x ∈ r' :: more, x = r := hr ▸ hcopies r
          obtain ⟨rfl, hmore⟩ := List.forall_mem_cons.mp hall
          rw [List.filter_cons_of_pos (by simp [hr]), List.foldl_cons, List.foldl_cons]
          congr 1
          refine foldl_addNew_of_mem fun x hx => ?_
          rw [hmore x hx]
          exact mem_addNew.mpr (Or.inr rfl)

/-- The records that reach a text, in order and each once. -/
theorem eraseDups_reaching (pairs : List (String × String)) (contributions : List Contribution)
    (d : String) :
    (((visits pairs contributions).filter (Reaches · d)).map (·.1)).eraseDups
      = ((contributions.flatMap (·.records)).filter
          fun r => ∃ e ∈ pairs, applyFormat e.2 r = .ok d).eraseDups := by
  have hcopies : ((visits pairs contributions).filter (Reaches · d)).map (·.1)
      = (contributions.flatMap (·.records)).flatMap fun r =>
          ((pairs.map fun e => (r, e.1, e.2)).filter (Reaches · d)).map (·.1) := by
    rw [visits, List.filter_flatMap, List.map_flatMap]
  rw [hcopies, ← foldl_addNew_nil, foldl_addNew_copies, foldl_addNew_nil]
  · congr 1
    refine List.filter_congr fun r _ => decide_eq_decide.mpr ?_
    constructor
    · intro hsome
      obtain ⟨_, hr⟩ := List.exists_mem_of_ne_nil _ hsome
      obtain ⟨v, hv, rfl⟩ := List.mem_map.mp hr
      obtain ⟨hpair, hd⟩ := List.mem_filter.mp hv
      obtain ⟨e, he, rfl⟩ := List.mem_map.mp hpair
      exact ⟨e, he, of_decide_eq_true hd⟩
    · rintro ⟨e, he, hd⟩
      exact List.ne_nil_of_mem (List.mem_map.mpr ⟨(r, e.1, e.2),
        List.mem_filter.mpr ⟨List.mem_map.mpr ⟨e, he, rfl⟩, decide_eq_true hd⟩, rfl⟩)
  · intro r r' hr'
    obtain ⟨v, hv, rfl⟩ := List.mem_map.mp hr'
    obtain ⟨e, -, rfl⟩ := List.mem_map.mp (List.mem_filter.mp hv).1
    rfl

/-! ## The groups of an extension point -/

/-- Grouping fails exactly if a record comes nowhere, or the first to reach a text has no source. -/
theorem groups_error_iff {pairs : List (String × String)} {contributions : List Contribution} :
    (∃ fault, groups point pairs contributions = .error fault) ↔
      (∃ v ∈ visits pairs contributions, ∀ d, ¬ Reaches v d)
        ∨ ∃ d v, (visits pairs contributions).find? (Reaches · d) = some v
          ∧ ∀ s, applyFormat v.2.1 v.1 ≠ .ok s := by
  constructor
  · rintro ⟨fault, h⟩
    rcases groupFrom_breaks h with hnowhere | ⟨d, v, -, hfirst, hno⟩
    · exact Or.inl hnowhere
    · exact Or.inr ⟨d, v, hfirst, hno⟩
  · intro hfault
    cases h : groups point pairs contributions with
    | error fault => exact ⟨fault, rfl⟩
    | ok gs =>
        exfalso
        rcases hfault with ⟨v, hv, hno⟩ | ⟨d, v, hfirst, hno⟩
        · obtain ⟨-, hall, -⟩ := groupFrom_ok h List.nodup_nil
          obtain ⟨d, hd⟩ := hall v hv
          exact hno d hd
        · rw [← List.head?_filter] at hfirst
          obtain ⟨vs, hvs⟩ := List.head?_eq_some_iff.mp hfirst
          obtain ⟨s, hs, -⟩ := groupFrom_unmade h rfl hvs
          exact hno s hs

/-- A group has the records that reach its text, and the source that the first of them names. -/
theorem group_of_groups {pairs : List (String × String)} {contributions : List Contribution}
    (h : groups point pairs contributions = .ok gs) (hg : g ∈ gs) :
    g.records = ((contributions.flatMap (·.records)).filter
        fun r => ∃ e ∈ pairs, applyFormat e.2 r = .ok g.destination).eraseDups
      ∧ ∃ v, (visits pairs contributions).find? (Reaches · g.destination) = some v
        ∧ applyFormat v.2.1 v.1 = .ok g.source := by
  obtain ⟨v, hfirst⟩ : ∃ v, (visits pairs contributions).find? (Reaches · g.destination)
      = some v := by
    obtain ⟨r, hr, e, he, hd⟩ := (mem_destinations_of_groups h).mp (List.mem_map.mpr ⟨g, hg, rfl⟩)
    rw [← Option.isSome_iff_exists, List.find?_isSome]
    exact ⟨(r, e.1, e.2), List.mem_flatMap.mpr ⟨r, hr, List.mem_map.mpr ⟨e, he, rfl⟩⟩,
      decide_eq_true hd⟩
  obtain ⟨vs, hvs⟩ := List.head?_eq_some_iff.mp (List.head?_filter.trans hfirst)
  obtain ⟨s, hs, hmade⟩ := groupFrom_unmade h rfl hvs
  have hg' := Option.some.inj ((groupOf_of_mem (groups_ok h).1 hg).symm.trans hmade)
  refine ⟨?_, v, hfirst, ?_⟩
  · rw [← eraseDups_reaching, hvs, List.map_cons, ← foldl_addNew_nil]
    exact congrArg Group.records hg'
  · rw [hg']
    exact hs

/-- **Groups in the order of their first record.** Grouping fails exactly if a destination format
does not apply to a record, or the source format of the first visit to a text does not apply to
its record. Otherwise there is one group for each text that the destination formats make of the
records, in the order in which the texts first come. A group is not empty; its records are those
of which some destination format makes its text, whichever module brought them, in order and each
once; and its source is what the source format makes of the first record, under the pair with
which that record first came to the text. -/
theorem groups_firstSeen (p : ExtensionPoint) (contributions : List Contribution) :
    ((∃ fault, groups p.name p.formatPairs contributions = .error fault) ↔
      (∃ v ∈ visits p.formatPairs contributions, ∀ d, ¬ Reaches v d)
        ∨ ∃ d v, (visits p.formatPairs contributions).find? (Reaches · d) = some v
          ∧ ∀ s, applyFormat v.2.1 v.1 ≠ .ok s)
    ∧ ∀ gs, groups p.name p.formatPairs contributions = .ok gs →
      (∃ texts, List.Forall₂ Reaches (visits p.formatPairs contributions) texts
        ∧ gs.map (·.destination) = texts.eraseDups)
      ∧ ∀ g ∈ gs, g.records ≠ []
        ∧ g.records = ((contributions.flatMap (·.records)).filter
            fun r => ∃ e ∈ p.formatPairs, applyFormat e.2 r = .ok g.destination).eraseDups
        ∧ ∃ v, (visits p.formatPairs contributions).find? (Reaches · g.destination) = some v
          ∧ applyFormat v.2.1 v.1 = .ok g.source := by
  refine ⟨groups_error_iff, fun gs h => ⟨?_, fun g hg => ?_⟩⟩
  · obtain ⟨texts, htexts, hkeys⟩ := groupFrom_destinations h
    exact ⟨texts, htexts, hkeys.trans foldl_addNew_nil⟩
  · exact ⟨(groups_tidy h g hg).1, group_of_groups h hg⟩

/-! ### One file for each voice and one for all -/

/-- Every record goes to the file of its voice and to the file of the choir, and a voice may be
called like the choir. -/
def choirPoint : ExtensionPoint :=
  { (default : ExtensionPoint) with
    name := "Choir"
    templateSources := some ["\x7b1\x7d.h", "All.h"]
    templateDestinations := some ["codebuild/\x7b0\x7d.h", "codebuild/Choir.h"] }

def choirContributions : List Contribution :=
  [⟨"Rehearsal", [["Alto", "Low"], ["Choir", "Low"]]⟩,
    ⟨"Concert", [["Alto", "High"], ["Alto", "Low"]]⟩]

def choirGroups : List Group :=
  [⟨"codebuild/Alto.h", "Low.h", [["Alto", "Low"], ["Alto", "High"]]⟩,
    ⟨"codebuild/Choir.h", "All.h", [["Alto", "Low"], ["Choir", "Low"], ["Alto", "High"]]⟩]

theorem groups_firstSeen_choir :
    groups "Choir" choirPoint.formatPairs choirContributions = .ok choirGroups
      ∧ (∃ texts, List.Forall₂ Reaches (visits choirPoint.formatPairs choirContributions) texts
        ∧ ["codebuild/Alto.h", "codebuild/Choir.h"] = texts.eraseDups)
      ∧ ∀ g ∈ choirGroups, ∃ v,
        (visits choirPoint.formatPairs choirContributions).find? (Reaches · g.destination) = some v
          ∧ applyFormat v.2.1 v.1 = .ok g.source := by
  have hgroups : groups "Choir" choirPoint.formatPairs choirContributions = .ok choirGroups := by
    decide +kernel
  obtain ⟨hkeys, hmade⟩ := (groups_firstSeen choirPoint choirContributions).2 choirGroups hgroups
  exact ⟨hgroups, hkeys, fun g hg => (hmade g hg).2.2⟩

end PatchForge
