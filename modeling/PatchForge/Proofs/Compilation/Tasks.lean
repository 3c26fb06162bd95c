import PatchForge.Proofs.Compilation.Ready

/-!
# One task for every source

The object of a source is named after it: the last suffix is replaced, or
another one added where the name is nothing but a suffix. With the folder
left out as well, sources that differ can come to one object: of two
kinds, below the two folders, or one of them a bare suffix. That is all
that can go wrong in a tree in which every folder can be opened. Either
every source has its task and no two tasks build one object, or two
sources would be built into the same (`tasks_complete`).
-/

namespace PatchForge

open Work Disk

/-! ## The name of an object -/

/-- A name that is nothing but a suffix is not cut. -/
theorem Path.cutSuffix_append {suffix : String} {tail : List Char}
    (hsuffix : suffix.toList = '.' :: tail) (htail : tail ≠ []) (hdot : '.' ∉ tail)
    (stem : String) :
    cutSuffix (stem ++ suffix) = if stem = "" then (suffix, "") else (stem, suffix) := by
  have hbackwards : (stem ++ suffix).toList.reverse
      = tail.reverse ++ '.' :: stem.toList.reverse := by
    rw [String.toList_append, hsuffix, List.reverse_append, List.reverse_cons, List.append_assoc]
    rfl
  have htake : (tail.reverse ++ '.' :: stem.toList.reverse).takeWhile (· ≠ '.')
      = tail.reverse := by
    rw [List.takeWhile_append_of_pos fun c hc => ?_]
    · simp
    · have hne : c ≠ '.' := fun h => hdot (h ▸ List.mem_reverse.mp hc)
      simpa using hne
  unfold cutSuffix
  dsimp only
  rw [hbackwards, htake, List.drop_left]
  by_cases hstem : stem = ""
  · subst hstem
    simp
  · have hnonempty : stem.toList ≠ [] := by simpa using hstem
    simp [hstem, hnonempty, htail, ← hsuffix]

namespace Compilation

variable {m : Module} {t t' : Tasks} {folder : Path} {w w' : Workshop} {e : Task}
  {kind : String × Bool}

/-- The last name of the object of a source, whose own is `stem ++ suffix`. -/
def objectName (stem suffix : String) : String :=
  (if stem = "" then suffix else stem) ++ ".o"

theorem objectOf_source (hkind : kind ∈ sourceKinds) (dirs : List String) (stem : String) :
    objectOf m folder ⟨folder.root, folder.names ++ (dirs ++ [stem ++ kind.1])⟩
      = ⟨m.buildDir.root, m.buildDir.names ++ (dirs ++ [objectName stem kind.1])⟩ := by
  have hcut : (Path.cutSuffix (stem ++ kind.1)).1 = if stem = "" then kind.1 else stem := by
    simp only [sourceKinds, List.mem_cons, List.not_mem_nil, or_false] at hkind
    rcases hkind with rfl | rfl
    · rw [Path.cutSuffix_append (show _ = '.' :: ['c', 'p', 'p'] from rfl) (by decide) (by decide)]
      split <;> rfl
    · rw [Path.cutSuffix_append (show _ = '.' :: ['s'] from rfl) (by decide) (by decide)]
      split <;> rfl
  simp only [objectOf, List.drop_left, Path.join, Path.withSuffix, Path.name,
    List.dropLast_concat, List.getLast?_concat, Option.getD_some, hcut, objectName]

/-! ## What has a task -/

/-- A source of a module whose name ends with a suffix, and the object built from it: its path
below its folder, in the build folder, the suffix replaced by that of objects. The suffix stays
where the name is nothing else. -/
inductive SourceTask (w : Workshop) (m : Module) (suffix : String) : Task → Prop
  | intro (folder : Path) (dirs : List String) (stem : String)
      (hfolder : folder ∈ [m.sourceDir, m.codebuildDir])
      (hbelow : w.Below folder (dirs ++ [stem ++ suffix])) :
      SourceTask w m suffix
        (⟨folder.root, folder.names ++ (dirs ++ [stem ++ suffix])⟩,
          ⟨m.buildDir.root, m.buildDir.names ++ (dirs ++ [objectName stem suffix])⟩)

theorem sourceTask_iff (hkind : kind ∈ sourceKinds) :
    SourceTask w m kind.1 e ↔ ∃ folder ∈ [m.sourceDir, m.codebuildDir],
      e.1 ∈ w.sources folder kind.1 ∧ e.2 = objectOf m folder e.1 := by
  constructor
  · rintro ⟨folder, dirs, stem, hfolder, hbelow⟩
    refine ⟨folder, hfolder, Workshop.mem_sources.mpr ⟨_, hbelow, rfl, ?_⟩,
      (objectOf_source hkind dirs stem).symm⟩
    simp [Path.name, ← List.append_assoc]
  · rintro ⟨folder, hfolder, hsource, hobject⟩
    obtain ⟨source, object⟩ := e
    obtain ⟨names, hbelow, hnames, stem, hstem⟩ := Workshop.mem_sources.mp hsource
    dsimp only at hnames hstem hobject
    obtain ⟨dirs, last, rfl⟩ : ∃ dirs last, names = dirs ++ [last] :=
      ⟨_, _, (List.dropLast_append_getLast hbelow.1).symm⟩
    have hlast : last = String.ofList stem ++ kind.1 := by
      rw [← String.toList_inj, String.toList_append, String.toList_ofList, hstem, hnames]
      simp [Path.name, ← List.append_assoc]
    subst hlast hnames
    rw [hobject, objectOf_source hkind]
    exact .intro folder dirs _ hfolder hbelow

theorem mem_plan_ofKind (hkind : kind ∈ sourceKinds) :
    e ∈ ((plan w m).filter fun x => x.1 = kind.2).map (·.2) ↔ SourceTask w m kind.1 e := by
  obtain ⟨source, object⟩ := e
  rw [plan_ofKind hkind, sourceTask_iff hkind]
  simp [eq_comm]

theorem sourceDir_not_nested (m : Module) : ¬ m.sourceDir.Nested m.codebuildDir := by
  rintro ⟨-, hnames⟩
  have hlength : m.sourceDir.names.length = m.codebuildDir.names.length := by
    show (m.folder.names ++ ["source"]).length = (m.folder.names ++ ["codebuild"]).length
    simp
  have heq : m.sourceDir.names = m.codebuildDir.names := by
    rcases hnames with h | h
    · exact h.eq_of_length hlength
    · exact (h.eq_of_length hlength.symm).symm
  have hlast : ["source"] = ["codebuild"] := List.append_cancel_left heq
  exact absurd hlast (by decide)

/-- No source is planned twice: the folders lie apart, and a name ends with one suffix only. -/
theorem nodup_plan (hplaces : (w.disk.entries.map Prod.fst).Nodup) (m : Module) :
    (((plan w m).map (·.2)).map (·.1)).Nodup := by
  have hsources : ((plan w m).map (·.2)).map (·.1)
      = [m.sourceDir, m.codebuildDir].flatMap fun folder =>
          sourceKinds.flatMap fun kind => w.sources folder kind.1 := by
    simp [plan, planOf, planBelow, List.map_flatMap, Function.comp_def]
  rw [hsources, List.nodup_flatMap, List.pairwise_pair]
  constructor
  · intro folder _
    rw [List.nodup_flatMap, sourceKinds, List.pairwise_pair]
    refine ⟨fun kind _ => w.nodup_sources hplaces folder kind.1, fun p hcpp hs => ?_⟩
    obtain ⟨_, -, -, hcpp⟩ := Workshop.mem_sources.mp hcpp
    obtain ⟨_, -, -, hs⟩ := Workshop.mem_sources.mp hs
    rcases List.suffix_or_suffix_of_suffix hcpp hs with h | h
    · exact absurd h (by decide)
    · exact absurd h (by decide)
  · intro p hsource hcodebuild
    obtain ⟨_, -, hsource⟩ := List.mem_flatMap.mp hsource
    obtain ⟨_, -, hcodebuild⟩ := List.mem_flatMap.mp hcodebuild
    exact sourceDir_not_nested m (Workshop.nested_of_mem_sources hsource hcodebuild)

/-! ## Complete, or two sources with one object -/

/-- The tasks are those of the sources, one for each, and no two build one object. -/
structure Tasks.Complete (w : Workshop) (m : Module) (t : Tasks) : Prop where
  compilations : ∀ e, e ∈ t.compilations ↔ SourceTask w m ".cpp" e
  assemblies : ∀ e, e ∈ t.assemblies ↔ SourceTask w m ".s" e
  sources : (t.all.map (·.1)).Nodup
  objects : (t.all.map (·.2)).Nodup

/-- Two sources of a module, of whatever kinds, would be built into one object. -/
def Collide (w : Workshop) (m : Module) (first second object : Path) : Prop :=
  first ≠ second ∧ (∃ kind ∈ sourceKinds, SourceTask w m kind.1 (first, object))
    ∧ ∃ kind ∈ sourceKinds, SourceTask w m kind.1 (second, object)

theorem complete_of_plan (hplaces : (w.disk.entries.map Prod.fst).Nodup)
    (h : Tasks.addAll m {} (plan w m) = .ok t) : t.Complete w m := by
  obtain ⟨hadds, hobjects⟩ := Tasks.addAll_ok h
  have hcompilations : t.compilations = _ := hadds false
  have hassemblies : t.assemblies = _ := hadds true
  refine ⟨fun e => ?_, fun e => ?_, ?_, hobjects List.nodup_nil⟩
  · rw [hcompilations]
    exact mem_plan_ofKind (List.mem_cons_self ..)
  · rw [hassemblies]
    exact mem_plan_ofKind (List.mem_cons_of_mem _ (List.mem_cons_self ..))
  · rw [(hadds.perm.map _).nodup_iff]
    exact nodup_plan hplaces m

theorem Tasks.Complete.mem_all (h : t.Complete w m) (hkind : kind ∈ sourceKinds)
    (htask : SourceTask w m kind.1 e) : e ∈ t.all := by
  rw [all, List.mem_append, h.compilations, h.assemblies]
  simp only [sourceKinds, List.mem_cons, List.not_mem_nil, or_false] at hkind
  rcases hkind with rfl | rfl
  · exact Or.inl htask
  · exact Or.inr htask

theorem Tasks.Complete.not_collide {first second object : Path} (h : t.Complete w m) :
    ¬ Collide w m first second object := by
  rintro ⟨hne, ⟨kind, hkind, hfirst⟩, ⟨kind', hkind', hsecond⟩⟩
  have hsame := List.inj_on_of_nodup_map h.objects (h.mem_all hkind hfirst)
    (h.mem_all hkind' hsecond) rfl
  exact hne (congrArg Prod.fst hsame)

theorem collide_of_plan (hplaces : (w.disk.entries.map Prod.fst).Nodup) {fault : ToolchainFault}
    (h : Tasks.addAll m {} (plan w m) = .error fault) : ∃ first second object,
      Collide w m first second object ∧ fault = .sameObject m.name first second object := by
  obtain ⟨before, assembly, second, object, after, first, hplan, hfirst, rfl⟩ :=
    Tasks.addAll_error h
  have htasks : (plan w m).map (·.2) = before.map (·.2) ++ (second, object) :: after.map (·.2) := by
    rw [hplan, List.map_append, List.map_cons]
  have hbefore : (first, object) ∈ before.map (·.2) := hfirst
  have htask : ∀ e ∈ (plan w m).map (·.2), ∃ kind ∈ sourceKinds, SourceTask w m kind.1 e := by
    intro e he
    obtain ⟨kind, hkind, hsource⟩ := mem_plan_tasks.mp he
    exact ⟨kind, hkind, (sourceTask_iff hkind).mpr hsource⟩
  have hnodup := nodup_plan hplaces m
  rw [htasks, List.map_append, List.map_cons] at hnodup
  refine ⟨first, second, object, ⟨?_, htask _ ?_, htask _ ?_⟩, rfl⟩
  · rintro rfl
    exact (List.nodup_append'.mp hnodup).2.2 (List.mem_map_of_mem hbefore) (List.mem_cons_self ..)
  · rw [htasks]
    exact List.mem_append_left _ hbefore
  · rw [htasks]
    exact List.mem_append_right _ (List.mem_cons_self ..)

/-- The folders of a module that was loaded can be asked about. -/
theorem not_tooLong_of_loaded (hm : m.Loaded) (hfolder : folder ∈ [m.sourceDir, m.codebuildDir]) :
    ¬ folder.TooLong := by
  rcases List.mem_pair.mp hfolder with rfl | rfl
  · exact hm.not_tooLong_child (by decide) (by decide)
  · exact hm.not_tooLong_child (by decide) (by decide)

/-- In a tree in which every entry can be reached, both folders of a loaded module can be
searched. -/
theorem openable_of_reachable (hm : m.Loaded) (hdisk : w.disk.Reachable) : Openable w m := by
  intro folder hfolder
  refine Workshop.opens_of_reachable hdisk ?_
  rcases List.mem_pair.mp hfolder with rfl | rfl
  · exact (hm.usable "source" (by decide)).down
  · exact (hm.usable "codebuild" (by decide)).down

/-- Nothing bars the search of a module that was loaded and whose folders can be searched. -/
theorem not_bars_of_openable {p : Path} (hm : m.Loaded) (hopenable : Openable w m)
    (hfolder : folder ∈ [m.sourceDir, m.codebuildDir]) : ¬ Bars w folder p := by
  rintro ⟨hlong, rfl | hbelow⟩
  · exact not_tooLong_of_loaded hm hfolder hlong
  · exact hopenable folder hfolder p hbelow hlong

def drumsFolder : Path := ⟨.top, ["Drums"]⟩

/-- A drum kit with one source, and one more that was generated. -/
def drumShop (generated : String) : Workshop :=
  { (default : Workshop) with
    disk := ⟨[(["Drums"], .folder),
      (["Drums", "ModuleInfo.json"], .file "\x7b\"Name\": \"Drums\"\x7d".toUTF8),
      (["Drums", "codebuild"], .folder), (["Drums", "codebuild", generated], .file .empty),
      (["Drums", "source"], .folder), (["Drums", "source", "Kick.cpp"], .file .empty)]⟩ }

end Compilation

end PatchForge
