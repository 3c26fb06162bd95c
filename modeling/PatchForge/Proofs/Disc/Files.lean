import PatchForge.Disc
import PatchForge.Proofs.Compilation.Sources
import PatchForge.Proofs.Dict.Merge
import PatchForge.Proofs.Discovery.Candidates
import PatchForge.Proofs.Work.Ways

/-!
# Files below a folder

A file tree as it is seen by who looks for files only: the bytes at a
place, if a file lies there (`Disk.file?`). New folders are not seen that
way (`Disk.Grows.file?_eq`), and of the operations only writing is.

What lies below a folder is listed file by file, each once and in order
(`filesBelow_run`). The list is given by the files of the tree alone, so
two trees with the same files below a folder list the same
(`Disk.Lists.congr`), and a folder that is not there lists nothing
(`Disk.Lists.nil`).

Where a path leads, if anywhere, its names say: each `..` goes back by one
(`Path.placeFrom`).
-/

namespace PatchForge

open Work

/-- The path that goes on from another one by names. -/
def Path.under (p : Path) (names : List String) : Path := ⟨p.root, p.names ++ names⟩

/-- A file goes into the output under the names that lead to it from its folder. -/
theorem Path.join_drop (folder output : Path) (names : List String) :
    output.join ⟨.here, (folder.under names).names.drop folder.names.length⟩
      = output.under names := by
  rw [under, List.drop_left]
  rfl

namespace Disk

variable {d d' : Disk} {here place : Place} {content : ByteArray} {folder : Path}
  {files : List (List String × ByteArray)}

/-! ## Files by place -/

/-- The bytes of the file at a place, if a file lies there. -/
def file? (d : Disk) (place : Place) : Option ByteArray :=
  match d.get? place with
  | some (.file content) => some content
  | _ => none

theorem file?_eq_some : d.file? place = some content ↔ d.get? place = some (.file content) := by
  unfold file?
  split
  · rename_i found hget
    simp [hget]
  · rename_i hno
    exact ⟨nofun, fun hget => (hno content hget).elim⟩

theorem Grows.file?_eq (h : Grows d d') (place : Place) : d'.file? place = d.file? place := by
  unfold file?
  rcases h place with heq | ⟨hnone, hfolder⟩
  · rw [heq]
  · rw [hnone, hfolder]

theorem file?_put (h : d.get? place ≠ some .folder) (content : ByteArray) (other : Place) :
    (d.put place (.file content)).file? other
      = if other = place then some content else d.file? other := by
  unfold file?
  rw [get?_put_place d other (.file content) h]
  by_cases ho : other = place
  · rw [if_pos ho, if_pos ho]
  · rw [if_neg ho, if_neg ho]

theorem places_put (d : Disk) (place : Place) (entry : Entry) :
    (d.put place entry).entries.map Prod.fst = addNew (d.entries.map Prod.fst) place :=
  Dict.keys_set d.entries place entry

/-- What is put at a place is put there once. -/
theorem nodup_put (h : (d.entries.map Prod.fst).Nodup) (place : Place) (entry : Entry) :
    ((d.put place entry).entries.map Prod.fst).Nodup := by
  rw [places_put]
  exact nodup_addNew h

/-! ## The files of a folder -/

/-- The files are those below the folder, each once and in the order of their paths. -/
structure Lists (d : Disk) (folder : Path) (files : List (List String × ByteArray)) : Prop where
  mem : ∀ names content, (names, content) ∈ files ↔
    names ≠ [] ∧ d.file? (folder.names ++ names) = some content
  nodup : (files.map Prod.fst).Nodup
  sorted : files.Pairwise fun a b => (folder.under a.1).le (folder.under b.1) = true

theorem Lists.congr (h : d.Lists folder files)
    (hfiles : ∀ names, d'.file? (folder.names ++ names) = d.file? (folder.names ++ names)) :
    d'.Lists folder files where
  mem names content := by rw [h.mem, hfiles]
  nodup := h.nodup
  sorted := h.sorted

theorem Lists.nil (h : ∀ names content, names ≠ [] →
    d.file? (folder.names ++ names) ≠ some content) : d.Lists folder [] where
  mem names content := ⟨nofun, fun hfile => (h names content hfile.1 hfile.2).elim⟩
  nodup := List.nodup_nil
  sorted := .nil

/-- In a tree in which all can be reached there are files only below folders that are found. -/
theorem Reachable.leadsToFolder (h : d.Reachable) (hfolder : folder.Usable) {names : List String}
    (hne : names ≠ []) (hfile : d.file? (folder.names ++ names) = some content) :
    LeadsToFolder d here folder := by
  have hentry := mem_entries_of_get? (file?_eq_some.mp hfile) (by simp [hne])
  have habove : ∀ q, q <+: folder.names → d.get? q = some .folder := by
    intro q hq
    refine h.folder_above hentry (hq.trans (List.prefix_append ..)) ?_
    rintro rfl
    have hlength := hq.length_le
    rw [List.length_append] at hlength
    exact hne (List.eq_nil_of_length_eq_zero (by omega))
  have hfree : folder.Free d :=
    { hfolder with noFile := fun q hq content hget => by simp [habove q hq] at hget }
  exact ⟨folder.names, hfree.follow_of_stands fun q hq _ => habove q hq,
    habove _ List.prefix_rfl⟩

/-! ### Listing them -/

/-- What lies below a folder, as the names that lead there from it, in the order of the paths. -/
def inOrder (d : Disk) (folder : Path) : List (List String × Entry) :=
  (d.below folder.names).mergeSort fun a b => (folder.under a.1).le (folder.under b.1)

/-- An entry that is a file. -/
def fileOf? (e : List String × Entry) : Option (List String × ByteArray) :=
  match e.2 with
  | .file content => some (e.1, content)
  | .folder => none

theorem fileOf?_eq_some {e : List String × Entry} {b : List String × ByteArray} :
    fileOf? e = some b ↔ e = (b.1, .file b.2) := by
  obtain ⟨names, entry⟩ := e
  obtain ⟨names', content'⟩ := b
  cases entry <;> simp [fileOf?]

/-- The files below a folder, in order. -/
def filesIn (d : Disk) (folder : Path) : List (List String × ByteArray) :=
  (d.inOrder folder).filterMap fileOf?

/-- With one entry for each place, what lies below a folder is what the entries say. -/
theorem get?_below (hplaces : (d.entries.map Prod.fst).Nodup) {start : Place}
    {names : List String} {entry : Entry} (hne : names ≠ []) :
    d.get? (start ++ names) = some entry ↔ (start ++ names, entry) ∈ d.entries := by
  rw [get?, if_neg (by simp [hne])]
  exact Dict.get?_eq_some_iff hplaces

theorem mem_filesIn (hplaces : (d.entries.map Prod.fst).Nodup) {names : List String} :
    (names, content) ∈ d.filesIn folder ↔
      names ≠ [] ∧ d.file? (folder.names ++ names) = some content := by
  unfold filesIn inOrder
  simp only [List.mem_filterMap, List.mem_mergeSort, fileOf?_eq_some, exists_eq_right, mem_below]
  refine and_congr_right fun hne => ?_
  rw [file?_eq_some, get?_below hplaces hne]

theorem lists_filesIn (hplaces : (d.entries.map Prod.fst).Nodup) (folder : Path) :
    d.Lists folder (d.filesIn folder) where
  mem names content := mem_filesIn hplaces
  nodup := by
    have hnames : ((d.inOrder folder).map Prod.fst).Nodup :=
      (((List.mergeSort_perm _ _).map Prod.fst).nodup_iff).mpr (nodup_below hplaces folder.names)
    refine List.pairwise_map.mpr ((List.pairwise_map.mp hnames).filterMap fileOf? ?_)
    rintro e e' hne b hb b' hb'
    obtain rfl := fileOf?_eq_some.mp hb
    obtain rfl := fileOf?_eq_some.mp hb'
    exact hne
  sorted := by
    have htrans : ∀ a b c : List String × Entry, (folder.under a.1).le (folder.under b.1) = true →
        (folder.under b.1).le (folder.under c.1) = true →
        (folder.under a.1).le (folder.under c.1) = true := fun _ _ _ => Path.keyLe_trans
    have htotal : ∀ a b : List String × Entry, ((folder.under a.1).le (folder.under b.1)
        || (folder.under b.1).le (folder.under a.1)) = true :=
      fun a b => Bool.or_eq_true_iff.mpr (Path.keyLe_total _ _)
    refine (List.pairwise_mergeSort htrans htotal (d.below folder.names)).filterMap fileOf? ?_
    rintro e e' hle b hb b' hb'
    obtain rfl := fileOf?_eq_some.mp hb
    obtain rfl := fileOf?_eq_some.mp hb'
    exact hle

end Disk

/-- The tree below a folder is in order: the names there can be used, and files are found by
theirs. -/
structure Workshop.Orderly (w : Workshop) (folder : Path) : Prop where
  plain : ∀ {names entry}, names ≠ [] → (folder.names ++ names, entry) ∈ w.disk.entries →
    (folder.under names).Down ∧ hasNull (folder.under names) = false
  leads : ∀ {names content}, names ≠ [] →
    w.disk.file? (folder.names ++ names) = some content →
      w.disk.follow w.here (folder.under names) = .ok (folder.names ++ names)

namespace Workshop.Orderly

variable {w : Workshop} {folder : Path} (h : w.Orderly folder)
  (hplaces : (w.disk.entries.map Prod.fst).Nodup)

include h

include hplaces

/-- What is found by the path of an entry is that entry, a file if it is one. -/
theorem hasFile_eq {e : List String × Entry} (he : e ∈ w.disk.below folder.names) :
    w.hasFile (folder.under e.1) = (Disk.fileOf? e).isSome := by
  obtain ⟨names, entry⟩ := e
  obtain ⟨hne, hentry⟩ := Disk.mem_below.mp he
  have hget := (Disk.get?_below hplaces hne).mpr hentry
  obtain ⟨hdown, hnull⟩ := h.plain hne hentry
  unfold Workshop.hasFile
  rw [hnull, Bool.not_false, Bool.true_and]
  cases entry with
  | file content =>
      have hleads := h.leads hne (Disk.file?_eq_some.mpr hget)
      rw [Disk.find_ok.mpr ⟨hleads, hget⟩]
      rfl
  | folder =>
      split
      · rename_i place content hfind
        obtain ⟨hfollow, hfound⟩ := Disk.find_ok.mp hfind
        obtain ⟨rfl, -⟩ := Disk.place_of_follow hdown hfollow
        cases hget.symm.trans hfound
      · rfl

/-- Where the folders can be opened, no path is too long. -/
theorem short (hopens : w.Opens folder) (hfolder : hasNull folder = false)
    (hfind : w.disk.find w.here folder = .ok (folder.names, .folder))
    {e : List String × Entry} (he : e ∈ w.disk.below folder.names) :
    ¬ (folder.under e.1).TooLong := by
  obtain ⟨names, entry⟩ := e
  obtain ⟨hne, hentry⟩ := Disk.mem_below.mp he
  cases entry with
  | file content =>
      have hfile := Disk.file?_eq_some.mpr ((Disk.get?_below hplaces hne).mpr hentry)
      exact Disk.not_tooLong_of_follow (h.leads hne hfile)
  | folder => exact hopens _ ⟨hfolder, folder.names, names, hfind, hne, hentry, rfl⟩

end Workshop.Orderly

/-- The files below a folder that is there are listed, if the tree is in order there and no
folder has a path too long to be opened. -/
theorem filesBelow_run {folder : Path} {w : Workshop} (hfolder : folder.Usable)
    (hthere : Disk.LeadsToFolder w.disk w.here folder)
    (hplaces : (w.disk.entries.map Prod.fst).Nodup) (horder : w.Orderly folder) :
    (filesBelow folder).run w
        = (.ok ((w.disk.filesIn folder).map fun e => folder.under e.1), w)
      ∨ ∃ names, (folder.names ++ names, .folder) ∈ w.disk.entries
        ∧ (folder.under names).TooLong
        ∧ (filesBelow folder).run w = (.error (.disk .nameTooLong (folder.under names)), w) := by
  obtain ⟨place, hfollow, hget⟩ := hthere
  obtain ⟨rfl, -⟩ := Disk.place_of_follow hfolder.down hfollow
  have hfind := Disk.find_ok.mpr ⟨hfollow, hget⟩
  have hmap : (w.disk.inOrder folder).map (fun e => (folder.under e.1, e.2))
      = ((w.disk.below folder.names).map fun e => (folder.under e.1, e.2)).mergeSort
        fun a b => a.1.le b.1 := List.map_mergeSort fun _ _ _ _ => rfl
  have hbelow : (w.below folder).map (·.1)
      = (w.disk.inOrder folder).map fun e => folder.under e.1 := by
    have hentries : w.below folder
        = (w.disk.inOrder folder).map fun e => (folder.under e.1, e.2) := by
      rw [Workshop.below, hfind, hmap]
      rfl
    rw [hentries, List.map_map]
    rfl
  have hmem : ∀ e ∈ w.disk.inOrder folder, e ∈ w.disk.below folder.names :=
    fun e he => List.mem_mergeSort.mp he
  rcases Work.below_run (Workshop.hasFolder_iff.mpr ⟨hfolder.noNull, _, hfind⟩) with
    ⟨hopens, hlisted⟩ | ⟨p, ⟨-, place, names, hfind', -, hentry, rfl⟩, hlong, hlisted⟩
  · left
    rw [filesBelow, run_bind, hlisted, hbelow]
    dsimp only
    rcases filterM_run (fun p => isFile_run p w)
      ((w.disk.inOrder folder).map fun e => folder.under e.1) with hrun | ⟨p, hp, hlong, -⟩
    · rw [hrun, Disk.filesIn, List.filter_map, List.map_filterMap, ← List.filterMap_eq_filter,
        List.map_filterMap]
      refine Prod.ext (congrArg Except.ok (List.filterMap_congr fun e he => ?_)) rfl
      have hfile := horder.hasFile_eq hplaces (hmem e he)
      obtain ⟨names, entry⟩ := e
      cases entry <;> simp [Option.guard, hfile, Disk.fileOf?]
    · obtain ⟨⟨names, entry⟩, he, rfl⟩ := List.mem_map.mp hp
      exact (horder.short hplaces hopens hfolder.noNull hfind (hmem _ he) hlong).elim
  · obtain ⟨rfl, -⟩ := Disk.place_of_follow hfolder.down (Disk.find_ok.mp hfind').1
    refine Or.inr ⟨names, hentry, hlong, ?_⟩
    rw [filesBelow, run_bind, hlisted]
    rfl

/-! ## Where paths lead -/

/-- The place that the names of a path say, seen from another. -/
def Path.placeFrom (here : Place) (p : Path) : Place :=
  p.names.foldl (fun place name => if name = ".." then place.dropLast else place ++ [name])
    (if p.isAbsolute then [] else here)

theorem Path.placeFrom_under (here : Place) (p : Path) {names : List String}
    (hplain : ".." ∉ names) :
    (p.under names).placeFrom here = p.placeFrom here ++ names := by
  have hdown : ∀ {names : List String} (place : Place), ".." ∉ names →
      names.foldl (fun place name => if name = ".." then place.dropLast else place ++ [name]) place
        = place ++ names := by
    intro names
    induction names with
    | nil => exact fun place _ => (List.append_nil place).symm
    | cons name names ih =>
        intro place hplain
        obtain ⟨hname, hnames⟩ := not_or.mp (List.mem_cons.not.mp hplain)
        rw [List.foldl_cons, if_neg (Ne.symm hname), ih _ hnames, List.append_assoc]
        rfl
  rw [placeFrom, under, List.foldl_append, hdown _ hplain]
  rfl

theorem Path.Down.placeFrom {p : Path} (h : p.Down) (here : Place) :
    p.placeFrom here = p.names := by
  have htop : p = Path.under ⟨.top, []⟩ p.names := h.eq
  rw [htop, Path.placeFrom_under here _ h.plain]
  rfl

theorem Disk.placeFrom_of_follow {d : Disk} {here place : Place} {p : Path}
    (h : d.follow here p = .ok place) : place = p.placeFrom here := by
  have hwalk : ∀ {names : List String} {start place : Place}, d.walk start names = .ok place →
      place = names.foldl
        (fun place name => if name = ".." then place.dropLast else place ++ [name]) start := by
    intro names
    induction names with
    | nil =>
        rintro start place ⟨⟩
        rfl
    | cons name names ih =>
        intro start place hwalk
        rw [walk] at hwalk
        cases hstep : d.step start name with
        | error e =>
            rw [hstep] at hwalk
            cases hwalk
        | ok next =>
            rw [hstep] at hwalk
            have hnext : next = if name = ".." then start.dropLast else start ++ [name] := by
              have hfolder := folder_of_step hstep
              unfold step at hstep
              rw [hfolder] at hstep
              dsimp only at hstep
              split at hstep
              · rename_i hup
                rw [if_pos hup]
                exact (Except.ok.inj hstep).symm
              · rename_i hdown
                split at hstep
                · cases hstep
                · rw [if_neg hdown]
                  exact (Except.ok.inj hstep).symm
            rw [List.foldl_cons, ← hnext]
            exact ih hwalk
  unfold follow at h
  split at h
  · cases h
  · exact hwalk h

end PatchForge
