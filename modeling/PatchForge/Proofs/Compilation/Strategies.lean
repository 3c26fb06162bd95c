import PatchForge.Proofs.Compilation.UnitBuild

/-!
# The two strategies compared

A unit build and separate compilation take the same modules from the
same workshop. What the one compiles with is compared here with what the
other would, for every run that gets as far as starting the compiler.

- *Headers.* A unit build has the include folders of all modules but for
  their own export folders (`compileUnit_headers`): such a folder is on
  its list only if it is an exporter's for another module, or granted.
- *Sources.* A unit build has the sources below `source` and no others
  (`compileUnit_sources`). What lies below `codebuild` has a task in
  separate compilation and is passed over in silence here.
-/

namespace PatchForge

open Work

namespace Compilation

variable {c : Compilation} {output : Path} {w w' : Workshop} {r : Except Failure (List Path)}
  {q : Path}

/-! ## Headers -/

/-- A folder is one of a module's include folders exactly if it is the toolchain's, or brought
to a unit build, or the module's own export folder. -/
theorem mem_foldersOf_unit {m : Module} {exporters : List Module} :
    q ∈ c.foldersOf w m exporters ↔ q = c.toolchain.includeDir ∨ q ∈ unitFolders w m exporters
      ∨ q = m.codebuildExportDir := by
  have howns : q ∈ ownFolders m
      ↔ q ∈ [m.includeDir, m.codebuildDir] ∨ q = m.codebuildExportDir := by
    rw [ownFolders, List.mem_cons, List.mem_pair, List.mem_pair, or_assoc]
  rw [mem_foldersOf, howns, unitFolders, List.mem_append, List.mem_append]
  simp only [or_assoc, or_left_comm, or_comm]

theorem codebuildExportDir_mem_unitFolders {m x : Module} {exporters : List Module} :
    x.codebuildExportDir ∈ unitFolders w m exporters ↔
      x.codebuildExportDir ∈ exportedFolders w exporters
        ∨ x.codebuildExportDir ∈ w.grants.forModule m := by
  have hinclude : x.codebuildExportDir ≠ m.includeDir :=
    fun h => absurd (snoc_inj.mp h).2 (by decide)
  have hcodebuild : x.codebuildExportDir ≠ m.codebuildDir :=
    fun h => absurd (snoc_inj.mp h).2 (by decide)
  rw [unitFolders, List.mem_append, List.mem_append]
  simp only [List.mem_cons, List.not_mem_nil, hinclude, hcodebuild, false_or]

/-- What separate compilation has for all modules together is what a unit build has and the export
folders of the modules. -/
theorem UnitOf.mem_union {u : UnitBuild} (h : c.UnitOf w u) :
    q ∈ u.includes ∨ (∃ m ∈ c.modules, q = m.codebuildExportDir) ↔
      q = c.toolchain.includeDir ∨ ∃ e ∈ Capability.withOthers c.modules,
        ∃ dirs, (c.includeFolders e.1 e.2).run w = (.ok dirs, w) ∧ q ∈ dirs := by
  rw [h.mem_includes]
  constructor
  · rintro ((htoolchain | ⟨e, he, exporters, hexporters, hq⟩) | ⟨m, hm, hq⟩)
    · exact Or.inl htoolchain
    · obtain ⟨exporters', hexporters', hfolders⟩ := h.includeFolders_run he
      obtain rfl : exporters = exporters' := Except.ok.inj (hexporters.symm.trans hexporters')
      exact Or.inr ⟨e, he, _, hfolders, mem_foldersOf_unit.mpr (Or.inr (Or.inl hq))⟩
    · obtain ⟨e, he, rfl⟩ := Capability.exists_withOthers hm
      obtain ⟨exporters, -, hfolders⟩ := h.includeFolders_run he
      exact Or.inr ⟨e, he, _, hfolders, mem_foldersOf_unit.mpr (Or.inr (Or.inr hq))⟩
  · rintro (htoolchain | ⟨e, he, dirs, hrun, hq⟩)
    · exact Or.inl (Or.inl htoolchain)
    · obtain ⟨exporters, hexporters, hfolders⟩ := h.includeFolders_run he
      rw [hfolders] at hrun
      cases hrun
      rcases mem_foldersOf_unit.mp hq with htoolchain | hunit | hown
      · exact Or.inl (Or.inl htoolchain)
      · exact Or.inl (Or.inr ⟨e, he, exporters, hexporters, hunit⟩)
      · exact Or.inr ⟨e.1, Capability.mem_of_withOthers he, hown⟩

/-- **Headers of a unit build.** The compiler is started with the union of all modules' include
folders less their own export folders, of which it has those that an exporter brings or that
are granted. If nothing is started, a module cannot be looked up or taken in, or the file tree
is in the way. -/
theorem compileUnit_headers (hrun : (c.compileUnit output).run w = (r, w')) :
    (w'.started = w.started ∧ ∃ f, r = .error f
        ∧ (f.isOfFiles ∨ ∃ e ∈ Capability.withOthers c.modules, UnitFault w e f))
      ∨ ∃ folders, w'.started = w.started ++ [c.unitCall output folders] ∧ folders.Nodup
        ∧ (∀ e ∈ Capability.withOthers c.modules,
            ∃ dirs, (c.includeFolders e.1 e.2).run w = (.ok dirs, w))
        ∧ (∀ q, q ∈ folders ∨ (∃ m ∈ c.modules, q = m.codebuildExportDir) ↔
            q = c.toolchain.includeDir ∨ ∃ e ∈ Capability.withOthers c.modules,
              ∃ dirs, (c.includeFolders e.1 e.2).run w = (.ok dirs, w) ∧ q ∈ dirs)
        ∧ ∀ m ∈ c.modules, m.codebuildExportDir ∈ folders ↔
            ∃ e ∈ Capability.withOthers c.modules, ∃ exporters,
              Capability.exportersFor e.2 e.1 = .ok exporters
                ∧ (m.codebuildExportDir ∈ exportedFolders w exporters
                  ∨ m.codebuildExportDir ∈ w.grants.forModule e.1) := by
  rcases compileUnit_run hrun with
    ⟨e, he, f, hfault, rfl, rfl⟩ | ⟨u, hunit, ⟨hsame, f, rfl, hfiles⟩ | ⟨hstarted, -⟩⟩
  · exact Or.inl ⟨rfl, f, rfl, Or.inr ⟨e, he, hfault⟩⟩
  · exact Or.inl ⟨hsame, f, rfl, Or.inl hfiles⟩
  refine Or.inr ⟨u.includes, hstarted, hunit.nodup_includes, ?_, fun q => hunit.mem_union, ?_⟩
  · intro e he
    obtain ⟨exporters, -, hfolders⟩ := hunit.includeFolders_run he
    exact ⟨_, hfolders⟩
  · intro m _
    have htoolchain : m.codebuildExportDir ≠ c.toolchain.includeDir :=
      fun h => absurd (snoc_inj.mp h).2 (by decide)
    rw [hunit.mem_includes]
    simp only [htoolchain, false_or, codebuildExportDir_mem_unitFolders]

/-! ### A library that generates headers for another module, and for itself -/

def unitLibrary : Module :=
  { (default : Module) with
    name := "Library"
    folder := ⟨.top, ["Library"]⟩
    exported := some (.str "Library")
    exported_present := by decide }

def unitReader : Module :=
  { (default : Module) with
    name := "Reader"
    folder := ⟨.top, ["Reader"]⟩
    required := ["Library"] }

def unitShop : Workshop :=
  { (default : Workshop) with
    disk := ⟨[(["Library"], .folder), (["Library", "codebuildexport"], .folder),
      (["Reader"], .folder)]⟩ }

def unitOutput : Path := ⟨.top, ["Output"]⟩

def unitCompilation (modules : List Module) : Compilation := ⟨⟨⟨.top, ["Tools"]⟩⟩, "USA", modules⟩

theorem compileUnit_headers_library :
    ∃ w' folders, ((unitCompilation [unitLibrary, unitReader]).compileUnit unitOutput).run unitShop
        = (.ok [⟨.top, ["Output", "UniBuild.o"]⟩], w')
      ∧ w'.started = [(unitCompilation [unitLibrary, unitReader]).unitCall unitOutput folders]
      ∧ unitReader.includeDir ∈ folders ∧ unitLibrary.codebuildExportDir ∈ folders := by
  have hresult : (((unitCompilation [unitLibrary, unitReader]).compileUnit unitOutput).run
      unitShop).1.toOption = some [⟨.top, ["Output", "UniBuild.o"]⟩] := by
    decide +kernel
  have hexporters : Capability.exportersFor [unitLibrary] unitReader = .ok [unitLibrary] := rfl
  have hexported : unitLibrary.codebuildExportDir ∈ exportedFolders unitShop [unitLibrary] := by
    decide +kernel
  have hreader : (unitReader, [unitLibrary])
      ∈ Capability.withOthers (unitCompilation [unitLibrary, unitReader]).modules :=
    List.mem_cons_of_mem _ (List.mem_cons_self ..)
  cases hrun : ((unitCompilation [unitLibrary, unitReader]).compileUnit unitOutput).run
      unitShop with
  | mk result w' =>
      rw [hrun] at hresult
      obtain rfl := Result.toOption_some.mp hresult
      rcases compileUnit_headers hrun with
        ⟨-, f, hf, -⟩ | ⟨folders, hstarted, -, hdirs, hunion, hexport⟩
      · cases hf
      · refine ⟨w', folders, rfl, hstarted, ?_, ?_⟩
        · obtain ⟨dirs, hrun⟩ := hdirs _ hreader
          have hown : unitReader.includeDir ∈ dirs := by
            rcases includeFolders_run _ _ _ _ with ⟨exporters, -, hfolders⟩ | ⟨f, -, hfails⟩
            · rw [hfolders] at hrun
              cases hrun
              exact mem_foldersOf.mpr (Or.inr (Or.inl (List.mem_cons_self ..)))
            · rw [hfails] at hrun
              cases hrun
          have hboth := (hunion unitReader.includeDir).mpr
            (Or.inr ⟨_, hreader, dirs, hrun, hown⟩)
          refine hboth.resolve_right ?_
          decide +kernel
        · exact (hexport unitLibrary (by simp [unitCompilation])).mpr
            ⟨_, hreader, _, hexporters, Or.inl hexported⟩

/-- Alone, the library is compiled with its export folder in the one way and without it in the
other. -/
theorem compileUnit_headers_lone :
    (((unitCompilation [unitLibrary]).includeFolders unitLibrary []).run unitShop).1
        = .ok [⟨.top, ["Tools", "include"]⟩, unitLibrary.includeDir, unitLibrary.codebuildDir,
            unitLibrary.codebuildExportDir]
      ∧ (((unitCompilation [unitLibrary]).compileUnit unitOutput).run unitShop).1
        = .ok [⟨.top, ["Output", "UniBuild.o"]⟩]
      ∧ (((unitCompilation [unitLibrary]).compileUnit unitOutput).run unitShop).2.started
        = [(unitCompilation [unitLibrary]).unitCall unitOutput
            [⟨.top, ["Tools", "include"]⟩, unitLibrary.includeDir, unitLibrary.codebuildDir]]
      ∧ unitLibrary.codebuildExportDir.text
        ∉ (unitCompilation [unitLibrary]).unitCall unitOutput
            [⟨.top, ["Tools", "include"]⟩, unitLibrary.includeDir, unitLibrary.codebuildDir] := by
  refine ⟨Result.toOption_some.mp ?_, Result.toOption_some.mp ?_, ?_, ?_⟩
  · decide +kernel
  · decide +kernel
  · decide +kernel
  · decide +kernel

/-! ## Sources -/

/-- **Sources of a unit build.** Where every module has its tasks, the sources of these lie below
`source` and below `codebuild`. A unit build is refused if there is assembly below a `source`
folder; otherwise, if the compiler is started at all, it is on a file that includes what lies
below the `source` folders, and nothing else. No source is included twice unless two modules
share one. -/
theorem compileUnit_sources {t : Module → Tasks}
    (htasks : ∀ m ∈ c.modules, ((tasks m).run w).1 = .ok (t m))
    (hplaces : (w.disk.entries.map Prod.fst).Nodup)
    (hrun : (c.compileUnit output).run w = (r, w')) :
    (∀ m ∈ c.modules, ∀ kind ∈ sourceKinds,
        (t m).sources kind.2 = w.sources m.sourceDir kind.1 ++ w.sources m.codebuildDir kind.1)
      ∧ ((∃ e ∈ Capability.withOthers c.modules, ∃ f, r = .error f ∧ w' = w
          ∧ (LookupFault e.2 e.1 f ∨ w.sources e.1.sourceDir ".s" ≠ []
            ∧ f = .toolchain (.assemblyInUnit e.1.name)))
        ∨ (∀ m ∈ c.modules, w.sources m.sourceDir ".s" = [])
          ∧ ((w'.started = w.started ∧ ∃ f, r = .error f ∧ f.isOfFiles)
            ∨ ∃ u, c.UnitStarted output u w w'
              ∧ u.sources = c.modules.flatMap (fun m => w.sources m.sourceDir ".cpp")
              ∧ (u.sources.Nodup ↔ c.modules.Pairwise fun a b =>
                  (w.sources a.sourceDir ".cpp").Disjoint (w.sources b.sourceDir ".cpp"))
              ∧ (c.modules.Pairwise (fun a b => ¬ a.sourceDir.Nested b.sourceDir) →
                  u.sources.Nodup))) := by
  have hok : ∀ m ∈ c.modules, (tasks m).run w = (.ok (t m), ((tasks m).run w).2) :=
    fun m hm => Prod.ext (htasks m hm) rfl
  refine ⟨fun m hm => (tasks_ok (hok m hm)).2, ?_⟩
  rcases compileUnit_run hrun with ⟨e, he, f, hfault, rfl, rfl⟩ | ⟨u, hunit, hends⟩
  · refine Or.inl ⟨e, he, f, rfl, rfl, ?_⟩
    have hfound := hok e.1 (Capability.mem_of_withOthers he)
    rcases hfault with hlookup | hfolder | ⟨p, hbelow, hlong, -⟩ | hassembly
    · exact Or.inl hlookup
    · -- the tasks of the module were found in this folder
      obtain ⟨there, w₁, hthere⟩ := isFolder_of_tasks hfound
      rw [hfolder] at hthere
      cases hthere
    · -- and in those below it
      exact (openable_of_tasks hfound _ (List.mem_cons_self ..) p hbelow hlong).elim
    · exact Or.inr hassembly
  · have hnodup : u.sources.Nodup ↔ c.modules.Pairwise fun a b =>
        (w.sources a.sourceDir ".cpp").Disjoint (w.sources b.sourceDir ".cpp") := by
      rw [hunit.sources_eq, List.nodup_flatMap]
      exact and_iff_right fun m _ => w.nodup_sources hplaces m.sourceDir ".cpp"
    refine Or.inr ⟨fun m hm => hunit.no_assembly hm, hends.imp_right fun hstarted => ?_⟩
    refine ⟨u, hstarted, hunit.sources_eq, hnodup, fun hfolders => hnodup.mpr ?_⟩
    exact hfolders.imp fun hnested => w.disjoint_sources hnested ".cpp"

/-! ### A module with a generated source -/

def gameModule : Module :=
  { (default : Module) with name := "Game", folder := ⟨.top, ["Game"]⟩ }

def gameShop : Workshop :=
  { (default : Workshop) with
    disk := ⟨[(["Game"], .folder), (["Game", "source"], .folder),
      (["Game", "source", "Main.cpp"], .file "".toUTF8),
      (["Game", "codebuild"], .folder),
      (["Game", "codebuild", "Hooks.cpp"], .file "".toUTF8)]⟩ }

theorem compileUnit_sources_game :
    ∃ t w' u, ((tasks gameModule).run gameShop).1 = .ok t
      ∧ t.sources false = gameShop.sources gameModule.sourceDir ".cpp"
        ++ gameShop.sources gameModule.codebuildDir ".cpp"
      ∧ ((unitCompilation [gameModule]).compileUnit unitOutput).run gameShop
        = (.ok [⟨.top, ["Output", "UniBuild.o"]⟩], w')
      ∧ (unitCompilation [gameModule]).UnitStarted unitOutput u gameShop w'
      ∧ u.sources = gameShop.sources gameModule.sourceDir ".cpp" ∧ u.sources.Nodup := by
  have htasks : ((tasks gameModule).run gameShop).1.toOption.isSome = true := by
    decide +kernel
  have hresult : (((unitCompilation [gameModule]).compileUnit unitOutput).run
      gameShop).1.toOption = some [⟨.top, ["Output", "UniBuild.o"]⟩] := by
    decide +kernel
  obtain ⟨t, ht⟩ := Option.isSome_iff_exists.mp htasks
  have ht := Result.toOption_some.mp ht
  obtain ⟨hkinds, ⟨e, -, f, hf, -⟩ | ⟨-, ⟨-, f, hf, -⟩ | ⟨u, hstarted, hsources, -, hnodup⟩⟩⟩ :=
    compileUnit_sources (t := fun _ => t) (fun m hm => List.mem_singleton.mp hm ▸ ht)
      (by decide +kernel) (run_of_result hresult)
  · cases hf
  · cases hf
  · refine ⟨t, _, u, ht, ?_, run_of_result hresult, hstarted, ?_, ?_⟩
    · exact hkinds gameModule (List.mem_singleton.mpr rfl) (".cpp", false) (List.mem_cons_self ..)
    · exact hsources.trans (List.flatMap_singleton ..)
    · exact hnodup (List.pairwise_singleton ..)

/-- The generated source has its task, and the unit build leaves it out and ends well. -/
theorem compileUnit_sources_hooks :
    (∃ t, ((tasks gameModule).run gameShop).1 = .ok t
        ∧ t.sources false = [⟨.top, ["Game", "source", "Main.cpp"]⟩,
            ⟨.top, ["Game", "codebuild", "Hooks.cpp"]⟩])
      ∧ (((unitCompilation [gameModule]).compileUnit unitOutput).run gameShop).1
        = .ok [⟨.top, ["Output", "UniBuild.o"]⟩]
      ∧ (((unitCompilation [gameModule]).compileUnit unitOutput).run gameShop).2.disk.get?
          ["Output", "UniBuild.cpp"]
        = some (.file "#include \"/Game/source/Main.cpp\"\n".toUTF8) := by
  have htasks : ((tasks gameModule).run gameShop).1.toOption.map (·.sources false)
      = some [⟨.top, ["Game", "source", "Main.cpp"]⟩,
        ⟨.top, ["Game", "codebuild", "Hooks.cpp"]⟩] := by
    decide +kernel
  obtain ⟨t, ht, hsources⟩ := Option.map_eq_some_iff.mp htasks
  refine ⟨⟨t, Result.toOption_some.mp ht, hsources⟩, Result.toOption_some.mp ?_, ?_⟩
  · decide +kernel
  · decide +kernel

end Compilation

end PatchForge
