import PatchForge.Proofs.Compilation.Tasks
import PatchForge.Proofs.Compilation.Trace
import PatchForge.Linking

/-!
# Calls that can be made

No process is started for a call with a null character. Paths that were
found in the file tree hold none, and neither do the folders of loaded
modules. So with a toolchain and a region that are in order (`Plain`) the
flags of the modules decide: if one of them holds a null character then no
compiler or assembler can be started, and otherwise all of them can
(`startable_calls`). The linker is given no flags (`startable_link`).
-/

namespace PatchForge

open Work Disk

/-! ## Texts without a null character -/

theorem holdsNull_eq_false {text : String} :
    holdsNull text = false ↔ Char.ofNat 0 ∉ text.toList := by
  simp [holdsNull]

theorem holdsNull_append {first second : String} :
    holdsNull (first ++ second) = false ↔ holdsNull first = false ∧ holdsNull second = false := by
  simp [holdsNull_eq_false]

theorem holdsNull_intercalate {separator : String} (hseparator : holdsNull separator = false) :
    ∀ {texts : List String}, (∀ text ∈ texts, holdsNull text = false) →
      holdsNull (separator.intercalate texts) = false
  | [], _ => by
      rw [String.intercalate_nil]
      decide
  | [text], h => by
      rw [String.intercalate_singleton]
      exact h text (List.mem_singleton_self _)
  | text :: next :: texts, h => by
      obtain ⟨hfirst, hrest⟩ := List.forall_mem_cons.mp h
      rw [String.intercalate_cons_cons, holdsNull_append, holdsNull_append]
      exact ⟨⟨hfirst, hseparator⟩, holdsNull_intercalate hseparator hrest⟩

/-- A path that can be used has a text without a null character. -/
theorem holdsNull_text {p : Path} (h : hasNull p = false) : holdsNull p.text = false := by
  have hnames : ∀ name ∈ p.names, holdsNull name = false := fun name hname => by
    simpa using List.any_eq_false.mp h name hname
  have hroot : holdsNull p.root.text = false := by cases p.root <;> decide
  have hslash : holdsNull "/" = false := by decide
  have hbody := holdsNull_append.mpr ⟨hroot, holdsNull_intercalate hslash hnames⟩
  unfold Path.text
  dsimp only
  split
  · decide
  · exact hbody

/-- Cutting a text into words loses its blanks only. -/
theorem flatten_wordsFrom : ∀ cs word : List Char,
    (Text.wordsFrom cs word).flatten = word.reverse ++ cs.filter fun c => !Text.isBlank c
  | [], [] => rfl
  | [], _ :: _ => by simp [Text.wordsFrom]
  | c :: cs, word => by
      rw [Text.wordsFrom]
      by_cases hblank : Text.isBlank c = true
      · rw [if_pos hblank, List.filter_cons_of_neg (by simp [hblank])]
        cases word with
        | nil => simp [flatten_wordsFrom cs []]
        | cons d word => simp [flatten_wordsFrom cs []]
      · rw [if_neg hblank, List.filter_cons_of_pos (by simp [hblank]), flatten_wordsFrom]
        simp

theorem startable_words {text : String} :
    Startable (Text.words text) ↔ holdsNull text = false := by
  have hmem : Char.ofNat 0 ∈ (Text.wordsFrom text.toList []).flatten
      ↔ Char.ofNat 0 ∈ text.toList := by
    rw [flatten_wordsFrom, List.reverse_nil, List.nil_append, List.mem_filter]
    exact and_iff_left (by decide)
  rw [holdsNull_eq_false, ← hmem, Startable, Text.words, List.forall_mem_map, List.mem_flatten]
  simp [holdsNull_eq_false]

theorem startable_expandFlags {flags : List String} :
    Startable (Toolchain.expandFlags flags) ↔ ∀ flag ∈ flags, holdsNull flag = false := by
  rw [Startable, Toolchain.expandFlags, List.forall_mem_flatMap]
  exact forall₂_congr fun _ _ => startable_words

/-! ## Paths in a call -/

theorem hasNull_append {root : Root} {names more : List String} :
    hasNull ⟨root, names ++ more⟩ = false
      ↔ hasNull ⟨root, names⟩ = false ∧ hasNull ⟨root, more⟩ = false := by
  simp [hasNull]

theorem hasNull_child {p : Path} {text : String} (hp : hasNull p = false)
    (htext : hasNull (Path.parse text) = false) : hasNull (p.child text) = false := by
  unfold Path.child Path.join
  split
  · exact hasNull_append.mpr ⟨hp, htext⟩
  · exact htext

theorem startable_paths {paths : List Path} (h : ∀ p ∈ paths, hasNull p = false) :
    Startable (paths.map Path.text) :=
  List.forall_mem_map.mpr fun p hp => holdsNull_text (h p hp)

theorem startable_path {p : Path} (h : hasNull p = false) : Startable [p.text] :=
  startable_cons.mpr ⟨holdsNull_text h, List.forall_mem_nil _⟩

theorem startable_includeArguments {includes : List Path} (h : ∀ p ∈ includes, hasNull p = false) :
    Startable (Toolchain.includeArguments includes) := by
  cases includes with
  | nil => exact List.forall_mem_nil _
  | cons p ps =>
      obtain ⟨hp, hps⟩ := List.forall_mem_cons.mp h
      refine startable_append.mpr ⟨?_, ?_⟩
      · exact startable_cons.mpr ⟨by decide, startable_path hp⟩
      · refine List.forall_mem_flatMap.mpr fun q hq => ?_
        exact startable_append.mpr ⟨(by decide : Startable ["-I-", "-i"]),
          startable_path (hps q hq)⟩

/-- Only the flags of a job can bar its process. -/
theorem Toolchain.startable_build {program : Path} {flags : List String} {j : Job}
    (hprogram : hasNull program = false) (hflags : Startable (expandFlags flags))
    (hincludes : ∀ p ∈ j.includes, hasNull p = false) (hsource : hasNull j.source = false)
    (hobject : hasNull j.object = false) :
    Startable (program.text :: (expandFlags flags ++ j.arguments))
      ↔ ∀ flag ∈ j.flags, holdsNull flag = false := by
  have hends : Startable [j.source.text, "-o", j.object.text] :=
    startable_cons.mpr ⟨holdsNull_text hsource, startable_cons.mpr ⟨by decide,
      startable_path hobject⟩⟩
  rw [← startable_expandFlags, startable_cons, startable_append, Job.arguments, startable_append,
    startable_append]
  simp only [holdsNull_text hprogram, hflags, startable_includeArguments hincludes, hends,
    true_and, and_true]

namespace Compilation

variable {c : Compilation} {w w' : Workshop} {t : Module → Tasks} {m : Module}

/-! ## The calls of a compilation -/

/-- The toolchain and the region are such that a build starts with them. -/
structure Plain (c : Compilation) : Prop where
  toolchain : hasNull c.toolchain.folder = false
  region : Toolchain.isRegion c.region = true

theorem Plain.region_noNull (h : c.Plain) : holdsNull c.region = false := by
  have hall : ∀ region ∈ regions, holdsNull region = false := by decide
  exact hall _ (by simpa [Toolchain.isRegion] using h.region)

theorem Plain.outputPaths_noNull (h : c.Plain) {output : Path} (houtput : hasNull output = false) :
    hasNull (Toolchain.outputPaths output c.region).1 = false
      ∧ hasNull (Toolchain.outputPaths output c.region).2 = false := by
  have hall : ∀ region ∈ regions,
      hasNull (Path.parse ("CustomCode_" ++ region ++ ".bin")) = false
        ∧ hasNull (Path.parse ("CustomCode_" ++ region ++ ".map")) = false := by
    decide +kernel
  obtain ⟨hbinary, hmap⟩ := hall _ (by simpa [Toolchain.isRegion] using h.region)
  exact ⟨hasNull_child houtput hbinary, hasNull_child houtput hmap⟩

/-- The names of a source without a null character give an object without one. -/
theorem noNull_of_sourceTask {kind : String × Bool} {e : Task} (hm : m.Loaded)
    (hdisk : w.disk.Reachable) (h : SourceTask w m kind.1 e) :
    hasNull e.1 = false ∧ hasNull e.2 = false := by
  obtain ⟨folder, dirs, stem, hfolder, -, hfolderNull, place, entry, -, hentry⟩ := h
  have hnames := (hasNull_append.mp (hdisk _ hentry).1).2
  obtain ⟨hdirs, hname⟩ := hasNull_append.mp hnames
  have hbuild : hasNull m.buildDir = false := (hm.usable "build" (by decide)).noNull
  refine ⟨hasNull_append.mpr ⟨hfolderNull, hnames⟩,
    hasNull_append.mpr ⟨hbuild, hasNull_append.mpr ⟨hdirs, ?_⟩⟩⟩
  simp only [hasNull, List.any_cons, List.any_nil, Bool.or_false, holdsNull_append] at hname ⊢
  refine holdsNull_append.mpr ⟨?_, by decide⟩
  split
  · exact hname.2
  · exact hname.1

theorem noNull_of_tasks {t : Tasks} {e : Task} (hm : m.Loaded) (hdisk : w.disk.Reachable)
    (ht : (tasks m).run w = (.ok t, w')) (he : e ∈ t.all) :
    hasNull e.1 = false ∧ hasNull e.2 = false := by
  obtain ⟨rfl, hadds, -⟩ := adds_of_tasks ht
  obtain ⟨kind, hkind, hsource⟩ := mem_plan_tasks.mp (hadds.perm.mem_iff.mp he)
  exact noNull_of_sourceTask hm hdisk ((sourceTask_iff hkind).mpr hsource)

/-- The objects that a compilation gives can be named in a call. -/
theorem Compilable.noNull_objects (h : c.Compilable w t) :
    ∀ p ∈ c.objects t, hasNull p = false := by
  intro p hp
  obtain ⟨e, he, rfl⟩ := List.mem_map.mp hp
  obtain ⟨m, hm, he⟩ := List.mem_flatMap.mp he
  exact (noNull_of_tasks (h.loaded m hm) h.reachable (Prod.ext (h.tasks m hm) rfl) he).2

/-- The include folders of the modules can be named in a call if the grants can. -/
theorem noNull_folders (hplain : c.Plain) (hloaded : ∀ m ∈ c.modules, m.Loaded)
    (hgrants : ∀ name, ∀ q ∈ w.grants.get name, hasNull q = false) {e : Module × List Module}
    (he : e ∈ Capability.withOthers c.modules) : ∀ p ∈ c.folders w e, hasNull p = false := by
  have hfolder : ∀ m ∈ c.modules, ∀ name, isFolderName name = true →
      hasNull ⟨m.folder.root, m.folder.names ++ [name]⟩ = false :=
    fun m hm name hname => ((hloaded m hm).usable name hname).noNull
  intro p hp
  rcases mem_foldersOf.mp hp with rfl | hown | hexported | hgranted
  · exact hasNull_child hplain.toolchain (by decide)
  · have hm := Capability.mem_of_withOthers he
    simp only [ownFolders, List.mem_cons, List.not_mem_nil, or_false] at hown
    rcases hown with rfl | rfl | rfl
    · exact hfolder _ hm "include" (by decide)
    · exact hfolder _ hm "codebuild" (by decide)
    · exact hfolder _ hm "codebuildexport" (by decide)
  · obtain ⟨hthere, -⟩ := mem_exportedFolders.mp hexported
    exact (Workshop.hasFolder_iff.mp hthere).1
  · obtain ⟨point, -, hpoint⟩ := IncludeTable.mem_forModule.mp hgranted
    exact hgrants _ p hpoint

/-- **Calls and flags.** A compiler or assembler can be started exactly if no flag of a module
holds a null character. -/
theorem startable_calls (h : c.Compilable w t) (hplain : c.Plain)
    (hgrants : ∀ name, ∀ q ∈ w.grants.get name, hasNull q = false) {call : List String}
    (hcall : call ∈ c.calls w t) :
    Startable call ↔ ∀ flag ∈ moduleFlags c.modules, holdsNull flag = false := by
  have hflags : (∀ flag ∈ c.flags, holdsNull flag = false)
      ↔ ∀ flag ∈ moduleFlags c.modules, holdsNull flag = false := by
    rw [flags, List.forall_mem_cons, holdsNull_append]
    exact and_iff_right ⟨by decide, hplain.region_noNull⟩
  obtain ⟨e, he, hcall⟩ := List.mem_flatMap.mp hcall
  have hm := Capability.mem_of_withOthers he
  have hfolders := noNull_folders hplain h.loaded hgrants he
  have htask : ∀ task ∈ (t e.1).all, hasNull task.1 = false ∧ hasNull task.2 = false :=
    fun task htask =>
      noNull_of_tasks (h.loaded _ hm) h.reachable (Prod.ext (h.tasks _ hm) rfl) htask
  rw [← hflags]
  rcases List.mem_append.mp hcall with hcall | hcall
  · obtain ⟨task, hmem, rfl⟩ := List.mem_map.mp hcall
    obtain ⟨hsource, hobject⟩ := htask task (List.mem_append_left _ hmem)
    exact Toolchain.startable_build (hasNull_child hplain.toolchain (by decide)) (by decide)
      hfolders hsource hobject
  · obtain ⟨task, hmem, rfl⟩ := List.mem_map.mp hcall
    obtain ⟨hsource, hobject⟩ := htask task (List.mem_append_right _ hmem)
    exact Toolchain.startable_build (hasNull_child hplain.toolchain (by decide)) (by decide)
      hfolders hsource hobject

/-- The linker of a plain compilation can be started, whatever the flags. -/
theorem startable_link (hplain : c.Plain) {objects symbols : List Path} {output : Path}
    (hobjects : ∀ p ∈ objects, hasNull p = false) (hsymbols : ∀ p ∈ symbols, hasNull p = false)
    (houtput : hasNull output = false) (windows : Bool) :
    Startable ((c.toolchain.linker windows).text :: linkArguments objects symbols c.region
      (Toolchain.outputPaths output c.region).1 (Toolchain.outputPaths output c.region).2) := by
  obtain ⟨hbinary, hmap⟩ := hplain.outputPaths_noNull houtput
  have hlinker : hasNull (c.toolchain.linker windows) = false :=
    hasNull_child hplain.toolchain (by cases windows <;> decide)
  have hexternals : Startable (symbols.map fun p =>
      "-externals=" ++ p.text ++ "/" ++ c.region ++ ".txt") := by
    refine List.forall_mem_map.mpr fun p hp => ?_
    simp only [holdsNull_append, holdsNull_text (hsymbols p hp), hplain.region_noNull]
    decide
  have houtputs : ∀ p, hasNull p = false → ∀ option, holdsNull option = false →
      holdsNull (option ++ p.text) = false :=
    fun p hp option hoption => holdsNull_append.mpr ⟨hoption, holdsNull_text hp⟩
  rw [startable_cons, linkArguments, startable_append, startable_append]
  refine ⟨holdsNull_text hlinker, ⟨startable_paths hobjects, hexternals⟩, ?_⟩
  exact startable_cons.mpr ⟨houtputs _ hbinary _ (by decide),
    startable_cons.mpr ⟨houtputs _ hmap _ (by decide), List.forall_mem_nil _⟩⟩

end Compilation

end PatchForge
