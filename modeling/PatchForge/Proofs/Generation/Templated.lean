import PatchForge.Proofs.Generation.Chain
import PatchForge.Proofs.Rendering.Groups

/-!
# Templated extension points

Each group gives one file, and the groups are told apart by the texts of
their destinations. The files are told apart as well unless two texts
denote one path, and then the later group has the file
(`generateTemplated_groups`).
-/

namespace PatchForge

open Work Disk

variable {modules : List Module} {m : Module} {p : ExtensionPoint}
  {sources destinations : List String} {w w' : Workshop} {files : List Path}

theorem stagings_groupActs (m : Module) (p : ExtensionPoint) (gs : List Group) :
    stagings (groupActs m p (.ok gs)) = gs.map (groupStaging m p) := by
  rw [stagings, groupActs, List.filterMap_map, ← List.filterMap_eq_map]
  rfl

theorem mem_of_map_staging {l : List (Staging × Site)} {gs : List Group}
    (hl : l.map Prod.fst = gs.map (groupStaging m p)) {e : Staging × Site} (he : e ∈ l) :
    ∃ g ∈ gs, groupStaging m p g = e.1 := by
  rw [← List.mem_map, ← hl]
  exact List.mem_map.mpr ⟨e, he, rfl⟩

/-- Generation that ends well is a chain of stagings, one for each group. -/
theorem generateTemplated_ok
    (h : (generateTemplated modules m p sources destinations).run w = (.ok files, w')) :
    sources.length = destinations.length
      ∧ ∃ gs l, groups p.name p.formatPairs (p.contributions modules) = .ok gs
        ∧ files = gs.map (fun g => m.folder.child g.destination)
        ∧ l.map Prod.fst = gs.map (groupStaging m p)
        ∧ MadeAll w.here w.disk l w'.disk := by
  rw [performs_generateTemplated, bind_ok] at h
  obtain ⟨_, w₁, hacts, hfiles⟩ := h
  cases hfiles
  obtain ⟨-, -, hstop, l, hl, hmade⟩ := performAll_ok hacts
  by_cases hlength : sources.length = destinations.length
  · have hopen : templatedActs modules m p sources destinations = .grant (p.grant modules)
        :: groupActs m p (groups p.name p.formatPairs (p.contributions modules)) :=
      if_neg (not_not_intro hlength)
    rw [targets, hopen]
    rw [hopen] at hl hstop
    cases hgroups : groups p.name p.formatPairs (p.contributions modules) with
    | error f =>
        refine (hstop (.render f) ?_).elim
        rw [hgroups]
        exact List.mem_cons_of_mem _ (List.mem_cons_self ..)
    | ok gs =>
        have hstagings : stagings (.grant (p.grant modules) :: groupActs m p (.ok gs))
            = gs.map (groupStaging m p) := stagings_groupActs m p gs
        rw [hgroups, hstagings] at hl
        refine ⟨hlength, gs, l, rfl, ?_, hl, hmade⟩
        rw [hstagings, List.map_map]
        rfl
  · have hshut : templatedActs modules m p sources destinations
        = [.stop (.unevenTemplates p.name m.name sources.length destinations.length)] :=
      if_pos hlength
    rw [hshut] at hstop
    exact (hstop _ (List.mem_cons_self ..)).elim

theorem formatPairs_eq (hs : p.templateSources = some sources)
    (hd : p.templateDestinations = some destinations) :
    p.formatPairs = sources.zip destinations := by
  rw [ExtensionPoint.formatPairs, hs, hd]
  rfl

/-- **Templated mode.** If generation ends well, each destination text has one group, and every
record that a module brings is in the group of each text it formats to. The files are distinct
exactly if no two of these texts denote one path. A group's file holds its rendering in the
end unless a later group has the same file; what is rendered is the group's template as it was
before, unless an earlier group has that file. -/
theorem generateTemplated_groups (hs : p.templateSources = some sources)
    (hd : p.templateDestinations = some destinations)
    (hrun : (generateTemplated modules m p sources destinations).run w = (.ok files, w')) :
    sources.length = destinations.length
      ∧ ∃ gs : List Group, files = gs.map (fun g => m.folder.child g.destination)
        ∧ (gs.map (·.destination)).Nodup
        ∧ (∀ c ∈ modules, ∀ r ∈ c.contributions p.name, ∀ e ∈ sources.zip destinations,
            ∃ g ∈ gs, applyFormat e.2 (Record.project r p.slots) = .ok g.destination
              ∧ Record.project r p.slots ∈ g.records)
        ∧ (files.Nodup ↔ ∀ g ∈ gs, ∀ g' ∈ gs,
            m.folder.child g.destination = m.folder.child g'.destination →
              g.destination = g'.destination)
        ∧ ∀ before g after, gs = before ++ g :: after →
            (∀ g' ∈ after, ¬ SameFile w'.disk w.here (m.folder.child g.destination)
              (m.folder.child g'.destination)) →
            ∃ (text output : String) (a b : Place),
              w'.disk.follow w.here (m.codegenDir.child g.source) = .ok a
              ∧ ((∀ g' ∈ before, ¬ SameFile w'.disk w.here (m.codegenDir.child g.source)
                  (m.folder.child g'.destination)) → w.disk.get? a = some (.file text.toUTF8))
              ∧ renderGroup text p.name p.placeholders g.records = .ok output
              ∧ w'.disk.follow w.here (m.folder.child g.destination) = .ok b
              ∧ w'.disk.get? b = some (.file output.toUTF8) := by
  obtain ⟨hlength, gs, l, hgroups, rfl, hl, hmade⟩ := generateTemplated_ok hrun
  rw [formatPairs_eq hs hd] at hgroups
  obtain ⟨hnodup, hformats, hmem⟩ := groups_ok hgroups
  refine ⟨hlength, gs, rfl, hnodup, ?_, ?_, ?_⟩
  · intro c hc r hr e he
    have hrecord : Record.project r p.slots ∈ (p.contributions modules).flatMap (·.records) := by
      rw [ExtensionPoint.records_contributions]
      exact List.mem_flatMap.mpr ⟨c, hc, List.mem_map.mpr ⟨r, hr, rfl⟩⟩
    obtain ⟨d, hformat⟩ := hformats _ hrecord e he
    obtain ⟨g, hg, rfl, hin⟩ := (hmem d _).mpr ⟨hrecord, e, he, hformat⟩
    exact ⟨g, hg, hformat, hin⟩
  · rw [List.nodup_map_iff_inj_on hnodup.of_map]
    constructor
    · intro hinj g hg g' hg' heq
      rw [hinj g hg g' hg' heq]
    · intro hinj g hg g' hg' heq
      exact List.inj_on_of_nodup_map hnodup hg hg' (hinj g hg g' hg' heq)
  · rintro before g after rfl hlater
    rw [List.map_append, List.map_cons] at hl
    obtain ⟨l₁, l₂', rfl, hl₁, hrest⟩ := List.map_eq_append_iff.mp hl
    obtain ⟨⟨j, s⟩, l₂, rfl, rfl, hl₂⟩ := List.map_eq_cons_iff.mp hrest
    obtain ⟨d₁, d₂, hbefore, hthis, hafter⟩ := hmade.split
    have hlisted : (groupStaging m p g, s) ∈ l₁ ++ (groupStaging m p g, s) :: l₂ :=
      List.mem_append_right _ (List.mem_cons_self ..)
    have hsource := hmade.source_leads hlisted
    have htarget := hmade.target_leads hlisted
    refine ⟨s.text, s.output, s.source, s.target, hsource, fun hearlier => ?_,
      hthis.ready.rendered, htarget, ?_⟩
    · rw [← decodeUtf8_ok.mp hthis.ready.decoded]
      refine (hbefore.file_iff s.content fun e he heq => ?_).mp hthis.source_before
      obtain ⟨g', hg', hj⟩ := mem_of_map_staging hl₁ he
      refine hearlier g' hg' ⟨s.source, hsource, ?_⟩
      rw [heq, ← hmade.target_leads (List.mem_append_left _ he), ← hj]
      rfl
    · refine (hafter.file_iff s.output.toUTF8 fun e he heq => ?_).mpr hthis.made
      obtain ⟨g', hg', hj⟩ := mem_of_map_staging hl₂ he
      refine hlater g' hg' ⟨s.target, htarget, ?_⟩
      rw [heq, ← hmade.target_leads
        (List.mem_append_right _ (List.mem_cons_of_mem _ he)), ← hj]
      rfl

/-! ### Two texts for one file -/

def sheetPattern : String := "codebuild/\x7b0\x7d/\x7b1\x7d.h"

def sheetPoint : ExtensionPoint :=
  { (default : ExtensionPoint) with
    name := "Sheet"
    templateSources := some ["Sheet.h"]
    templateDestinations := some [sheetPattern]
    slots := ["Folder", "Name", "Row"]
    placeholders := [⟨"RowList", "\x7b2\x7d"⟩] }

/-- One record leaves out its folder, the other one names the folder itself. -/
def sheetModule : Module :=
  { (default : Module) with
    name := "Sheets"
    folder := ⟨.top, ["Sheets"]⟩
    extensionPoints := [sheetPoint]
    data := [("Sheet", [[("Name", "A"), ("Row", "1")],
      [("Folder", "."), ("Name", "A"), ("Row", "2")]])] }

def sheetShop : Workshop :=
  { (default : Workshop) with
    disk := ⟨[(["Sheets"], .folder), (["Sheets", "codegen"], .folder),
      (["Sheets", "codegen", "Sheet.h"], .file "\x7b\x7bRowList\x7d\x7d".toUTF8)]⟩ }

/-- The file that both texts of `sheetModule` denote. -/
def sheetFile : Path := ⟨.top, ["Sheets", "codebuild", "A.h"]⟩

theorem sheets_run : ((generateTemplated [sheetModule] sheetModule sheetPoint ["Sheet.h"]
    [sheetPattern]).run sheetShop).1.toOption
      = some [sheetFile, sheetFile] := by
  decide +kernel

/-- That no two groups have one file is not so. -/
theorem generateTemplated_files_repeat :
    ¬ ∀ (modules : List Module) (m : Module) (p : ExtensionPoint)
      (sources destinations : List String) (w w' : Workshop) (files : List Path),
      p.templateSources = some sources → p.templateDestinations = some destinations →
      sources.length = destinations.length →
      (generateTemplated modules m p sources destinations).run w = (.ok files, w') →
        files.Nodup := by
  intro h
  have hnodup := h [sheetModule] sheetModule sheetPoint ["Sheet.h"] [sheetPattern] sheetShop _ _
    rfl rfl rfl (run_of_result sheets_run)
  exact absurd hnodup (by decide)

theorem generateTemplated_groups_sheets :
    ∃ w', (generateTemplated [sheetModule] sheetModule sheetPoint ["Sheet.h"]
        [sheetPattern]).run sheetShop = (.ok [sheetFile, sheetFile], w')
      ∧ ∃ gs : List Group,
        [sheetFile, sheetFile] = gs.map (fun g => sheetModule.folder.child g.destination)
        ∧ (gs.map (·.destination)).Nodup := by
  obtain ⟨-, gs, hfiles, hnodup, -⟩ :=
    generateTemplated_groups rfl rfl (run_of_result sheets_run)
  exact ⟨_, run_of_result sheets_run, gs, hfiles, hnodup⟩

end PatchForge
