import PatchForge.Proofs.Compilation.Ready
import PatchForge.Proofs.Disc.Copying
import PatchForge.Proofs.Disc.Way

/-!
# The last copy of a disc file stays

Disc files are copied module after module, file after file, and each of
them is either copied or reported. What one file leaves behind can be in
the way of a later one, a file where that needs a folder, so which files
are copied is only known as the run goes on. What is left at a place is
known from that alone: the last file that was copied there, or what lay
there before.

The disc folders are read while the output is written. They stay as they
were as long as the output is not nested with any of them: then every
change to a file is under the output. New folders may appear elsewhere,
even in a disc folder, where the output is written with `..`. Folders are
not copied, but they are looked through, and one of these can have a path
that is too long for that. Then copying ends (`Unopened`).
-/

namespace PatchForge

open Work Disk

section

variable {folder output : Path}

/-! ## Copying the files of a module -/

theorem copyFiles_run : ∀ {files : List (List String × ByteArray)} {w : Workshop},
    (∀ e ∈ files, Source w folder e ∧ ¬ output.placeFrom w.here <+: folder.names ++ e.1) →
    hasNull output = false →
    ∃ (handled : List Handled) (w' : Workshop), handled.map Handled.file = files
      ∧ (∀ x ∈ handled, ∀ f ∈ x.fault, f.isDisk = true)
      ∧ (∀ x ∈ handled, x.Settled w'.disk output)
      ∧ ((files.map fun e => folder.under e.1).mapM (copyDiscFile folder output)).run w
        = (.ok (handled.map (Handled.copied? output)), w')
      ∧ Copies (output.placeFrom w.here) handled (handled.flatMap (Handled.lines folder output))
        w w'
  | [], w, _, _ =>
      ⟨[], w, rfl, List.forall_mem_nil _, List.forall_mem_nil _, rfl, Copies.refl w⟩
  | e :: files, w, hsources, hout => by
      obtain ⟨⟨hsource, hapart⟩, hrest⟩ := List.forall_mem_cons.mp hsources
      obtain ⟨x, w₁, hfile, hfault, hsettled, hrun, hcopies⟩ :=
        copyDiscFile_run hsource hout hapart
      -- Copies stay under the output, so the other files can be read as before.
      have hrest₁ : ∀ e ∈ files, Source w₁ folder e
          ∧ ¬ output.placeFrom w₁.here <+: folder.names ++ e.1 := by
        rw [hcopies.here]
        exact fun e he => ⟨(hrest e he).1.after hcopies (hrest e he).2, (hrest e he).2⟩
      obtain ⟨handled, w', hfiles, hfaults, hall, hruns, hcopies'⟩ := copyFiles_run hrest₁ hout
      rw [hcopies.here] at hcopies'
      refine ⟨x :: handled, w', by rw [List.map_cons, hfile, hfiles],
        List.forall_mem_cons.mpr ⟨hfault, hfaults⟩,
        List.forall_mem_cons.mpr ⟨hsettled.after hcopies', hall⟩, ?_, hcopies.append hcopies'⟩
      rw [List.map_cons, List.mapM_cons, run_bind, hrun]
      dsimp only
      rw [run_bind, hruns]
      rfl

end

/-! ## Copying modules -/

/-- What is said before the files of a module are copied. -/
def announcement (m : Module) : List String :=
  [(Notice.info ("Copying files from " ++ m.discDir.text) "folder").shown]

/-- What became of a module's disc folder: whether it was said to be copied, and its files. -/
structure DiscRun where
  module : Module
  announced : Bool
  handled : List Handled

namespace DiscRun

def copied (output : Path) (r : DiscRun) : List Path := r.handled.filterMap (Handled.copied? output)

def lines (output : Path) (r : DiscRun) : List String :=
  (if r.announced then announcement r.module else [])
    ++ r.handled.flatMap (Handled.lines r.module.discDir output)

/-- The run is that of a module whose disc folder was as it is in a workshop: each of its files
was handled once, in order, and failed, if it did, by a failure of the file tree. -/
structure Accounts (w : Workshop) (r : DiscRun) : Prop where
  files : w.disk.Lists r.module.discDir (r.handled.map Handled.file)
  faults : ∀ x ∈ r.handled, ∀ f ∈ x.fault, f.isDisk = true
  announced : LeadsToFolder w.disk w.here r.module.discDir → r.announced = true

end DiscRun

/-- Neither place is the other or below it. -/
def Place.Apart (p q : Place) : Prop := ¬ p <+: q ∧ ¬ q <+: p

instance (p q : Place) : Decidable (Place.Apart p q) :=
  inferInstanceAs (Decidable (¬ p <+: q ∧ ¬ q <+: p))

section

variable {w₀ w : Workshop} {m : Module} {output : Path} {handled : List Handled}
  {said : List String}

theorem usable_discDir (h : m.Loaded) : m.discDir.Usable := h.usable "disc" (by decide)

/-- What lies below a folder apart from the output is not under the output. -/
theorem not_under_output {out folder : Place} (h : Place.Apart out folder) (names : List String) :
    ¬ out <+: folder ++ names := fun hout =>
  (List.prefix_or_prefix_of_prefix hout (List.prefix_append folder names)).elim h.1 h.2

theorem isFolder_of_not_leadsToFolder {p : Path} (hp : p.Usable)
    (h : ¬ LeadsToFolder w.disk w.here p) : (isFolder p).run w = (.ok false, w) := by
  rcases isFolder_run p w with hrun | ⟨hlong, -⟩
  · cases hthere : w.hasFolder p with
    | false => rwa [hthere] at hrun
    | true =>
        obtain ⟨-, place, hfind⟩ := Workshop.hasFolder_iff.mp hthere
        exact (h ⟨place, find_ok.mp hfind⟩).elim
  · exact (hp.short hlong).elim

/-- The files of a tree in which all can be reached can be read, also after others were copied. -/
theorem source_of_lists {out : Place} {folder : Path} {files : List (List String × ByteArray)}
    (hreach : w₀.disk.Reachable) (hdown : folder.Down) (hfiles : w₀.disk.Lists folder files)
    (hcopies : Copies out handled said w₀ w) (hapart : Place.Apart out folder.names)
    {e : List String × ByteArray} (he : e ∈ files) : Source w folder e := by
  obtain ⟨hne, hfile⟩ := (hfiles.mem e.1 e.2).mp he
  have hget := file?_eq_some.mp hfile
  have hentry := mem_entries_of_get? hget (by simp [hne])
  have hpath : folder.under e.1 = ⟨.top, folder.names ++ e.1⟩ := by
    rw [Path.under, hdown.top]
  obtain ⟨hnull, hfollow⟩ := hreach _ hentry
  have hsource : Source w₀ folder e :=
    { plain := fun hup => (hreach.down hentry).plain (List.mem_append_right _ hup)
      noNull := by rwa [hpath]
      leads := by
        rw [hpath, follow_down (hreach.down hentry)]
        rwa [follow_down (hreach.down hentry)] at hfollow
      file := hget }
  exact hsource.after hcopies (not_under_output hapart e.1)

/-- A disc folder that is there is announced and its files are copied, if it can be looked
through. -/
theorem copyDiscFiles_of_leadsToFolder (hfolder : m.discDir.Usable)
    (hthere : LeadsToFolder w.disk w.here m.discDir)
    (hplaces : (w.disk.entries.map Prod.fst).Nodup) (horder : w.Orderly m.discDir) :
    (copyDiscFiles m output).run w = (do
        let copied ← ((w.disk.filesIn m.discDir).map fun e => m.discDir.under e.1).mapM
          (copyDiscFile m.discDir output)
        return copied.filterMap id : Work (List Path)).run (w.telling (announcement m))
      ∨ ∃ names, (m.discDir.names ++ names, .folder) ∈ w.disk.entries
        ∧ (m.discDir.under names).TooLong
        ∧ (copyDiscFiles m output).run w
          = (.error (.disk .nameTooLong (m.discDir.under names)), w.telling (announcement m)) := by
  have hsay : (say (.info ("Copying files from " ++ m.discDir.text) "folder")).run w
      = (.ok (), w.telling (announcement m)) := rfl
  unfold copyDiscFiles
  rw [run_bind, isFolder_of_leadsToFolder hfolder.noNull hthere]
  simp only [Bool.not_true, Bool.false_eq_true, if_false]
  rw [run_bind, hsay]
  dsimp only
  rw [run_bind]
  rcases filesBelow_run (w := w.telling (announcement m)) hfolder hthere hplaces
    ⟨horder.plain, horder.leads⟩ with hbelow | ⟨names, hentry, hlong, hbelow⟩
  · rw [hbelow]
    exact Or.inl rfl
  · rw [hbelow]
    exact Or.inr ⟨names, hentry, hlong, rfl⟩

/-- Copying from a workshop ended at a module's disc folder, for a folder there that the way to
the output made and whose path is too long to be opened. -/
structure Unopened (output : Path) (w : Workshop) (m : Module) (f : Failure) (w' : Workshop) :
    Prop where
  way : ¬ output.Passable w.here m.discDir
  fault : ∃ names, (m.discDir.under names).TooLong
    ∧ f = .disk .nameTooLong (m.discDir.under names)
  outside : ∀ place, ¬ output.placeFrom w.here <+: place →
    w'.disk.file? place = w.disk.file? place

/-! ### A disc folder after others were copied -/

/-- A disc folder that is not there had no files. -/
theorem copyDiscFiles_absent {out : Place} (hreach : w₀.disk.Reachable) (hm : m.Loaded)
    (hcopies : Copies out handled said w₀ w) (hthere : ¬ LeadsToFolder w.disk w.here m.discDir) :
    ∃ r : DiscRun, r.module = m ∧ r.Accounts w₀ ∧ r.handled = [] ∧ r.lines output = []
      ∧ (copyDiscFiles m output).run w = (.ok (r.copied output), w) := by
  have hbefore : ¬ LeadsToFolder w₀.disk w₀.here m.discDir := by
    rw [hcopies.here] at hthere
    exact fun hleads => hthere (hleads.mono hcopies.folders)
  have hnone : w₀.disk.Lists m.discDir [] := Lists.nil fun names content hne hfile =>
    hbefore (hreach.leadsToFolder (usable_discDir hm) hne hfile)
  refine ⟨⟨m, false, []⟩, rfl, ⟨hnone, List.forall_mem_nil _, fun h => (hbefore h).elim⟩, rfl, rfl,
    ?_⟩
  unfold copyDiscFiles
  rw [run_bind, isFolder_of_not_leadsToFolder (usable_discDir hm) hthere]
  rfl

section

variable (hreach : w₀.disk.Reachable) (hplaces : (w₀.disk.entries.map Prod.fst).Nodup)
  (hm : m.Loaded) (hapart : Place.Apart (output.placeFrom w₀.here) m.discDir.names)
  (hcopies : Copies (output.placeFrom w₀.here) handled said w₀ w)

include hapart hcopies

theorem file?_after (names : List String) :
    w₀.disk.file? (m.discDir.names ++ names) = w.disk.file? (m.discDir.names ++ names) :=
  (hcopies.outside _ (not_under_output hapart names)).symm

include hplaces

/-- The files of a disc folder are those that it had before. -/
theorem lists_after : w₀.disk.Lists m.discDir (w.disk.filesIn m.discDir) :=
  (lists_filesIn (hcopies.places hplaces) m.discDir).congr (file?_after hapart hcopies)

include hreach hm

theorem orderly_after (hhere : (⟨.top, w₀.here⟩ : Path).Usable) (hout : hasNull output = false)
    (hlays : Lays output w₀ w) : w.Orderly m.discDir where
  plain _ hentry := hlays.plain hreach (usable_discDir hm).down (not_under_output hapart) hentry
    hhere hout
  leads {names content} hne hfile := by
    have hfiles : w₀.disk.Lists m.discDir (w.disk.filesIn m.discDir) :=
      lists_after hplaces hapart hcopies
    have hlisted : (names, content) ∈ w.disk.filesIn m.discDir :=
      (hfiles.mem _ _).mpr ⟨hne, (file?_after hapart hcopies names).trans hfile⟩
    exact (source_of_lists hreach (usable_discDir hm).down hfiles hcopies hapart hlisted).leads

/-- A module's disc folder is copied after others were, unless it cannot be looked through. -/
theorem copyDiscFiles_run (hhere : (⟨.top, w₀.here⟩ : Path).Usable) (hout : hasNull output = false)
    (hlays : Lays output w₀ w) :
    (∃ (r : DiscRun) (w' : Workshop), r.module = m ∧ r.Accounts w₀
        ∧ (∀ x ∈ r.handled, x.Settled w'.disk output)
        ∧ (copyDiscFiles m output).run w = (.ok (r.copied output), w')
        ∧ Lays output w w'
        ∧ Copies (output.placeFrom w₀.here) r.handled (r.lines output) w w')
      ∨ ∃ f w', (copyDiscFiles m output).run w = (.error f, w')
        ∧ Unopened output w₀ m f w' := by
  -- The folder may be there only now, made on a way to the output; then it has no files.
  by_cases hthere : LeadsToFolder w.disk w.here m.discDir
  · have hfiles : w₀.disk.Lists m.discDir (w.disk.filesIn m.discDir) :=
      lists_after hplaces hapart hcopies
    have hannounced : Copies (output.placeFrom w₀.here) [] (announcement m) w
        (w.telling (announcement m)) :=
      { @Copies.refl (output.placeFrom w₀.here) w with rest := rfl }
    have htold : (w.telling (announcement m)).here = w₀.here := hcopies.here
    have hsources : ∀ e ∈ w.disk.filesIn m.discDir,
        Source (w.telling (announcement m)) m.discDir e
          ∧ ¬ output.placeFrom (w.telling (announcement m)).here <+: m.discDir.names ++ e.1 := by
      rw [htold]
      exact fun e he => ⟨source_of_lists hreach (usable_discDir hm).down hfiles
        (hcopies.append hannounced) hapart he, not_under_output hapart e.1⟩
    rcases @copyDiscFiles_of_leadsToFolder w m output (usable_discDir hm) hthere
      (hcopies.places hplaces) (orderly_after hreach hplaces hm hapart hcopies hhere hout hlays)
      with hrun | ⟨names, hentry, hlong, hrun⟩
    · obtain ⟨handled', w', hhandled, hfaults, hsettled, hcopyFiles, hcopied⟩ :=
        copyFiles_run hsources hout
      rw [htold] at hcopied
      have hlaid : Lays output (w.telling (announcement m)) w' := by
        refine Meets.ok (C := laying output) (meets_mapM fun p hp => ?_) hcopyFiles
        obtain ⟨e, he, rfl⟩ := List.mem_map.mp hp
        exact laying_copyDiscFile (hsources e he).1.plain
      refine Or.inl ⟨⟨m, true, handled'⟩, w', rfl, ⟨hhandled ▸ hfiles, hfaults, fun _ => rfl⟩,
        hsettled, ?_, ⟨hlaid.here, hlaid.places⟩, hannounced.append hcopied⟩
      rw [hrun, run_bind, hcopyFiles]
      dsimp only
      rw [run_pure, List.filterMap_map]
      rfl
    · refine Or.inr ⟨_, _, hrun, ?_, ⟨names, hlong, rfl⟩, hcopies.outside⟩
      exact hlays.not_passable hreach (usable_discDir hm).down (not_under_output hapart) hentry
        hlong
  · obtain ⟨r, hmodule, haccounts, hhandled, hlines, hrun⟩ :=
      copyDiscFiles_absent hreach hm hcopies hthere
    refine Or.inl ⟨r, w, hmodule, haccounts, ?_, hrun, Lays.refl output w, ?_⟩
    · rw [hhandled]
      exact List.forall_mem_nil _
    · rw [hhandled, hlines]
      exact Copies.refl w

end

/-! ### All disc folders -/

/-- A folder of a tree in which all can be reached has a path that can be used. -/
theorem usable_of_folder {d : Disk} {place : Place} (hreach : d.Reachable)
    (h : d.get? place = some .folder) : (⟨.top, place⟩ : Path).Usable := by
  by_cases htop : place = []
  · rw [htop]
    exact ⟨⟨rfl, List.not_mem_nil⟩, rfl, by unfold Path.TooLong; decide⟩
  · exact hreach.usable (mem_entries_of_get? h htop)

/-- The modules one after the other, from a workshop in which some were copied already. -/
theorem copyModules_run (hreach : w₀.disk.Reachable)
    (hplaces : (w₀.disk.entries.map Prod.fst).Nodup) (hhere : (⟨.top, w₀.here⟩ : Path).Usable)
    (hout : hasNull output = false) :
    ∀ {modules : List Module} {handled : List Handled} {said : List String} {w : Workshop},
    (∀ m ∈ modules, m.Loaded ∧ Place.Apart (output.placeFrom w₀.here) m.discDir.names) →
    Lays output w₀ w → Copies (output.placeFrom w₀.here) handled said w₀ w →
    (∃ (runs : List DiscRun) (w' : Workshop), runs.map DiscRun.module = modules
        ∧ (∀ r ∈ runs, r.Accounts w₀ ∧ ∀ x ∈ r.handled, x.Settled w'.disk output)
        ∧ (modules.mapM fun m => copyDiscFiles m output).run w
          = (.ok (runs.map (DiscRun.copied output)), w')
        ∧ Copies (output.placeFrom w₀.here) (runs.flatMap DiscRun.handled)
          (runs.flatMap (DiscRun.lines output)) w w')
      ∨ ∃ m ∈ modules, ∃ f w', (modules.mapM fun m => copyDiscFiles m output).run w
          = (.error f, w') ∧ Unopened output w₀ m f w'
  | [], _, _, w, _, _, _ => Or.inl ⟨[], w, rfl, List.forall_mem_nil _, rfl, Copies.refl w⟩
  | m :: modules, handled, said, w, hmodules, hlays, hcopies => by
      obtain ⟨⟨hm, hapart⟩, hrest⟩ := List.forall_mem_cons.mp hmodules
      rw [List.mapM_cons, run_bind]
      rcases copyDiscFiles_run hreach hplaces hm hapart hcopies hhere hout hlays with
        ⟨r, w₁, hmodule, haccounts, hsettled, hrun, hlaid, hcopied⟩ | ⟨f, w', hrun, hunopened⟩
      · rw [hrun]
        dsimp only
        rw [run_bind]
        rcases copyModules_run hreach hplaces hhere hout hrest (hlays.trans hlaid)
            (hcopies.append hcopied) with
          ⟨runs, w', hmodules', hall, hruns, hcopied'⟩ | ⟨m', hm', f, w', hruns, hunopened⟩
        · have hfirst : r.Accounts w₀ ∧ ∀ x ∈ r.handled, x.Settled w'.disk output :=
            ⟨haccounts, fun x hx => (hsettled x hx).after hcopied'⟩
          refine Or.inl ⟨r :: runs, w', by rw [List.map_cons, hmodule, hmodules'],
            List.forall_mem_cons.mpr ⟨hfirst, hall⟩, ?_, hcopied.append hcopied'⟩
          rw [hruns]
          rfl
        · rw [hruns]
          exact Or.inr ⟨m', List.mem_cons_of_mem _ hm', f, w', rfl, hunopened⟩
      · rw [hrun]
        exact Or.inr ⟨m, List.mem_cons_self, f, w', rfl, hunopened⟩

end

def stagesOutput : Path := ⟨.top, ["Out"]⟩

/-- Three modules with a disc file each; the output has a folder where the third file goes. -/
def stagesShop : Workshop :=
  { (default : Workshop) with
    disk := ⟨[(["Out"], .folder), (["Out", "Sky"], .folder),
      (["Dusk"], .folder),
      (["Dusk", "ModuleInfo.json"], .file "\x7b\"Name\": \"Dusk\"\x7d".toUTF8),
      (["Dusk", "disc"], .folder), (["Dusk", "disc", "Stage.arc"], .file "dusk".toUTF8),
      (["Dawn"], .folder),
      (["Dawn", "ModuleInfo.json"], .file "\x7b\"Name\": \"Dawn\"\x7d".toUTF8),
      (["Dawn", "disc"], .folder), (["Dawn", "disc", "Stage.arc"], .file "dawn".toUTF8),
      (["Noon"], .folder),
      (["Noon", "ModuleInfo.json"], .file "\x7b\"Name\": \"Noon\"\x7d".toUTF8),
      (["Noon", "disc"], .folder), (["Noon", "disc", "Sky"], .file "blue".toUTF8)]⟩ }

/-- The modules load, and copying them has these results. -/
theorem stagesShop_copied : ∃ dusk dawn noon : Module,
    (loadModule ⟨.top, ["Dusk"]⟩).run stagesShop = (.ok dusk, stagesShop)
      ∧ (loadModule ⟨.top, ["Dawn"]⟩).run stagesShop = (.ok dawn, stagesShop)
      ∧ (loadModule ⟨.top, ["Noon"]⟩).run stagesShop = (.ok noon, stagesShop)
      ∧ [dusk, dawn, noon].map Module.discDir
        = ["Dusk", "Dawn", "Noon"].map (fun name => ⟨.top, [name, "disc"]⟩)
      ∧ ((copyAllDiscFiles [dusk, dawn, noon] stagesOutput).run stagesShop).1.toOption
        = some [⟨.top, ["Out", "Stage.arc"]⟩, ⟨.top, ["Out", "Stage.arc"]⟩]
      ∧ ((copyAllDiscFiles [dusk, dawn, noon] stagesOutput).run stagesShop).2.disk.file?
        ["Out", "Stage.arc"] = some "dawn".toUTF8 := by
  have hresult : ((do
      let dusk ← loadModule ⟨.top, ["Dusk"]⟩
      let dawn ← loadModule ⟨.top, ["Dawn"]⟩
      let noon ← loadModule ⟨.top, ["Noon"]⟩
      return (dusk, dawn, noon) : Work (Module × Module × Module)).run stagesShop).1.toOption.any
        (fun (dusk, dawn, noon) =>
          [dusk, dawn, noon].map Module.discDir
              = ["Dusk", "Dawn", "Noon"].map (fun name => ⟨.top, [name, "disc"]⟩)
            && ((copyAllDiscFiles [dusk, dawn, noon] stagesOutput).run stagesShop).1.toOption
              = some [⟨.top, ["Out", "Stage.arc"]⟩, ⟨.top, ["Out", "Stage.arc"]⟩]
            && ((copyAllDiscFiles [dusk, dawn, noon] stagesOutput).run stagesShop).2.disk.file?
              ["Out", "Stage.arc"] = some "dawn".toUTF8) = true := by
    decide +kernel
  obtain ⟨⟨dusk, dawn, noon⟩, hloaded, hall⟩ := (Option.any_eq_true _ _).mp hresult
  simp only [Bool.and_eq_true, decide_eq_true_eq] at hall
  obtain ⟨⟨hdirs, hcopied⟩, hstage⟩ := hall
  have hsame : ∀ {m : Module} {folder : Path} {w w' : Workshop},
      (loadModule folder).run w = (.ok m, w') → w' = w :=
    fun h => unchanged_of_keeping (keeping_loadModule _) h
  obtain ⟨_, w₁, hdusk, hrest⟩ := bind_ok.mp (run_of_result hloaded)
  obtain rfl := hsame hdusk
  obtain ⟨_, w₂, hdawn, hrest⟩ := bind_ok.mp hrest
  obtain rfl := hsame hdawn
  obtain ⟨_, w₃, hnoon, hrest⟩ := bind_ok.mp hrest
  obtain rfl := hsame hnoon
  cases Except.ok.inj (congrArg Prod.fst hrest)
  exact ⟨dusk, dawn, noon, hdusk, hdawn, hnoon, hdirs, hcopied, hstage⟩

end PatchForge
