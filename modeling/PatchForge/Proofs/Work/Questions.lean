import PatchForge.Declaration.Loading
import PatchForge.Proofs.Declaration.Fields
import PatchForge.Proofs.Work.Files

/-!
# Asking what is there

The answer to the question for a folder is `hasFolder`, and for a file
`hasFile`, unless the path or a name in it is too long to be asked about
(`Path.TooLong`): then asking fails, and nothing else makes it fail
(`isFolder_run`, `isFile_run`). Looking through a list keeps what is
there, or fails at a path that is too long (`filterM_run`).

A module that was loaded lies at no such path: its declaration was found
in its folder, under a name as long as the longest of the folders that
are asked about (`Module.Loaded.not_tooLong`).
-/

namespace PatchForge

/-- Is there a folder at the path? -/
def Workshop.hasFolder (w : Workshop) (p : Path) : Bool :=
  !Work.hasNull p &&
    match w.disk.find w.here p with
    | .ok (_, .folder) => true
    | _ => false

/-- Is there a file at the path? -/
def Workshop.hasFile (w : Workshop) (p : Path) : Bool :=
  !Work.hasNull p &&
    match w.disk.find w.here p with
    | .ok (_, .file _) => true
    | _ => false

theorem Workshop.hasFolder_iff {w : Workshop} {p : Path} :
    w.hasFolder p = true ↔
      Work.hasNull p = false ∧ ∃ place, w.disk.find w.here p = .ok (place, .folder) := by
  unfold Workshop.hasFolder
  rw [Bool.and_eq_true, Bool.not_eq_true']
  refine and_congr_right fun _ => ?_
  split
  · rename_i place hfind
    simp [hfind]
  · rename_i hother
    simpa using fun place => hother place

namespace Disk

variable {d : Disk} {here place : Place} {p : Path}

theorem step_error {name : String} {e : DiskError} (h : d.step place name = .error e) :
    e = .missing ∨ e = .notFolder ∨ e = .nameTooLong ∧ nameLimit < name.utf8ByteSize := by
  unfold step at h
  split at h
  · exact Or.inl (Except.error.inj h).symm
  · exact Or.inr (Or.inl (Except.error.inj h).symm)
  · split at h
    · cases h
    · split at h
      · rename_i hlong
        exact Or.inr (Or.inr ⟨(Except.error.inj h).symm, hlong⟩)
      · cases h

theorem walk_error {e : DiskError} : ∀ {names : List String} {place : Place},
    d.walk place names = .error e →
      e = .missing ∨ e = .notFolder
        ∨ e = .nameTooLong ∧ ∃ name ∈ names, nameLimit < name.utf8ByteSize
  | [], _, h => by cases h
  | name :: names, place, h => by
      rw [walk] at h
      cases hs : d.step place name with
      | ok next =>
          rw [hs] at h
          rcases walk_error h with he | he | ⟨he, n, hn, hlong⟩
          · exact Or.inl he
          · exact Or.inr (Or.inl he)
          · exact Or.inr (Or.inr ⟨he, n, List.mem_cons_of_mem _ hn, hlong⟩)
      | error e' =>
          rw [hs] at h
          obtain rfl := Except.error.inj h
          rcases step_error hs with he | he | ⟨he, hlong⟩
          · exact Or.inl he
          · exact Or.inr (Or.inl he)
          · exact Or.inr (Or.inr ⟨he, name, List.mem_cons_self .., hlong⟩)

/-- Looking for a path fails as missing, as no folder on the way, or as too long. -/
theorem find_error {e : DiskError} (h : d.find here p = .error e) :
    e = .missing ∨ e = .notFolder ∨ e = .nameTooLong ∧ p.TooLong := by
  unfold find at h
  split at h
  · rename_i e' hfollow
    obtain rfl := Except.error.inj h
    unfold follow at hfollow
    split at hfollow
    · rename_i hlong
      exact Or.inr (Or.inr ⟨(Except.error.inj hfollow).symm, Or.inl hlong⟩)
    · rcases walk_error hfollow with he | he | ⟨he, hname⟩
      · exact Or.inl he
      · exact Or.inr (Or.inl he)
      · exact Or.inr (Or.inr ⟨he, Or.inr hname⟩)
  · split at h
    · cases h
    · exact Or.inl (Except.error.inj h).symm

/-- The names on a path that was followed are not too long. -/
theorem walk_names : ∀ {names : List String} {place next : Place},
    d.walk place names = .ok next → ∀ name ∈ names, name.utf8ByteSize ≤ nameLimit
  | [], _, _, _ => by simp
  | name :: names, place, next, h => by
      rw [walk] at h
      cases hs : d.step place name with
      | error e =>
          rw [hs] at h
          cases h
      | ok q =>
          rw [hs] at h
          refine List.forall_mem_cons.mpr ⟨?_, walk_names h⟩
          unfold step at hs
          split at hs
          · cases hs
          · cases hs
          · split at hs
            · rename_i hup
              rw [hup]
              decide
            · split at hs
              · cases hs
              · rename_i hshort
                exact Nat.le_of_not_lt hshort

theorem not_tooLong_of_follow (h : d.follow here p = .ok place) : ¬ p.TooLong := by
  unfold follow at h
  split at h
  · cases h
  · rename_i hshort
    rintro (hlong | ⟨name, hname, hlong⟩)
    · exact hshort hlong
    · exact Nat.not_lt.mpr (walk_names h name hname) hlong

theorem find_of_tooLong (h : p.TooLong) (d : Disk) (here : Place) :
    ∃ e, d.find here p = .error e := by
  cases hfind : d.find here p with
  | error e => exact ⟨e, rfl⟩
  | ok found => exact (not_tooLong_of_follow (find_ok.mp hfind).1 h).elim

end Disk

theorem Workshop.hasFile_of_tooLong {p : Path} (h : p.TooLong) (w : Workshop) :
    w.hasFile p = false := by
  obtain ⟨e, hfind⟩ := Disk.find_of_tooLong h w.disk w.here
  simp [Workshop.hasFile, hfind]

theorem Workshop.hasFolder_of_tooLong {p : Path} (h : p.TooLong) (w : Workshop) :
    w.hasFolder p = false := by
  obtain ⟨e, hfind⟩ := Disk.find_of_tooLong h w.disk w.here
  simp [Workshop.hasFolder, hfind]

namespace Work

variable {w w' : Workshop} {p : Path}

theorem isFolder_run (p : Path) (w : Workshop) :
    (isFolder p).run w = (.ok (w.hasFolder p), w)
      ∨ p.TooLong ∧ (isFolder p).run w = (.error (.disk .nameTooLong p), w) := by
  unfold isFolder lookUp? Workshop.hasFolder
  cases hn : hasNull p with
  | true => exact Or.inl rfl
  | false =>
      simp only [Bool.false_eq_true, if_false, run_bind, run_get, Bool.not_false, Bool.true_and]
      cases hfind : w.disk.find w.here p with
      | ok found =>
          obtain ⟨place, entry⟩ := found
          cases entry <;> exact Or.inl rfl
      | error e =>
          rcases Disk.find_error hfind with rfl | rfl | ⟨rfl, hlong⟩
          · exact Or.inl rfl
          · exact Or.inl rfl
          · exact Or.inr ⟨hlong, rfl⟩

theorem isFolder_ok {b : Bool} (h : (isFolder p).run w = (.ok b, w')) :
    b = w.hasFolder p ∧ w' = w := by
  rcases isFolder_run p w with hrun | ⟨-, hrun⟩
  · cases hrun.symm.trans h
    exact ⟨rfl, rfl⟩
  · cases hrun.symm.trans h

/-- The answer depends on nothing but what the path finds. -/
theorem isFolder_congr (h : w'.disk.find w'.here p = w.disk.find w.here p) :
    (isFolder p).run w' = (((isFolder p).run w).1, w') := by
  unfold isFolder lookUp?
  cases hn : hasNull p with
  | true => rfl
  | false =>
      simp only [Bool.false_eq_true, if_false, run_bind, run_get, h]
      cases hfind : w.disk.find w.here p with
      | ok found =>
          obtain ⟨place, entry⟩ := found
          cases entry <;> rfl
      | error e => cases e <;> rfl

theorem isFile_run (p : Path) (w : Workshop) :
    (isFile p).run w = (.ok (w.hasFile p), w)
      ∨ p.TooLong ∧ (isFile p).run w = (.error (.disk .nameTooLong p), w) := by
  unfold isFile lookUp? Workshop.hasFile
  cases hn : hasNull p with
  | true => exact Or.inl rfl
  | false =>
      simp only [Bool.false_eq_true, if_false, run_bind, run_get, Bool.not_false, Bool.true_and]
      cases hfind : w.disk.find w.here p with
      | ok found =>
          obtain ⟨place, entry⟩ := found
          cases entry <;> exact Or.inl rfl
      | error e =>
          rcases Disk.find_error hfind with rfl | rfl | ⟨rfl, hlong⟩
          · exact Or.inl rfl
          · exact Or.inl rfl
          · exact Or.inr ⟨hlong, rfl⟩

theorem isFile_ok {b : Bool} (h : (isFile p).run w = (.ok b, w')) :
    b = w.hasFile p ∧ w' = w := by
  rcases isFile_run p w with hrun | ⟨-, hrun⟩
  · cases hrun.symm.trans h
    exact ⟨rfl, rfl⟩
  · cases hrun.symm.trans h

/-- A question asked about many paths fails at one that is too long, if at all. -/
theorem filterM_run {ask : Path → Work Bool} {answer : Path → Bool}
    (hask : ∀ p, (ask p).run w = (.ok (answer p), w)
      ∨ p.TooLong ∧ (ask p).run w = (.error (.disk .nameTooLong p), w)) (l : List Path) :
    (l.filterM ask).run w = (.ok (l.filter answer), w)
      ∨ ∃ p ∈ l, p.TooLong ∧ (l.filterM ask).run w = (.error (.disk .nameTooLong p), w) := by
  -- the library's loop collects what it keeps backwards
  have hfrom : ∀ l kept : List Path,
      (List.filterAuxM ask l kept).run w = (.ok ((l.filter answer).reverse ++ kept), w)
        ∨ ∃ p ∈ l, p.TooLong
          ∧ (List.filterAuxM ask l kept).run w = (.error (.disk .nameTooLong p), w) := by
    intro l
    induction l with
    | nil => exact fun kept => Or.inl rfl
    | cons p l ih =>
        intro kept
        rw [List.filterAuxM]
        rcases hask p with hp | ⟨hlong, hp⟩
        · rw [run_bind, hp]
          cases hthere : answer p with
          | true =>
              rw [List.filter_cons_of_pos hthere, List.reverse_cons, List.append_assoc]
              refine (ih (p :: kept)).imp_right ?_
              rintro ⟨q, hq, hrest⟩
              exact ⟨q, List.mem_cons_of_mem _ hq, hrest⟩
          | false =>
              rw [List.filter_cons_of_neg (by simp [hthere])]
              refine (ih kept).imp_right ?_
              rintro ⟨q, hq, hrest⟩
              exact ⟨q, List.mem_cons_of_mem _ hq, hrest⟩
        · refine Or.inr ⟨p, List.mem_cons_self .., hlong, ?_⟩
          rw [run_bind, hp]
  unfold List.filterM
  rcases hfrom l [] with hrun | ⟨p, hp, hlong, hrun⟩
  · left
    rw [run_bind, hrun]
    simp
  · refine Or.inr ⟨p, hp, hlong, ?_⟩
    rw [run_bind, hrun]

theorem filterM_isFolder_run (l : List Path) (w : Workshop) :
    (l.filterM isFolder).run w = (.ok (l.filter w.hasFolder), w)
      ∨ ∃ p ∈ l, p.TooLong
        ∧ (l.filterM isFolder).run w = (.error (.disk .nameTooLong p), w) :=
  filterM_run (fun p => isFolder_run p w) l

end Work

/-! ## Paths in one folder -/

/-- The texts of the paths in one folder differ in their last names only. -/
theorem Path.exists_text_snoc (root : Root) (names : List String) :
    ∃ stem : String, ∀ name, name ≠ "" → (⟨root, names ++ [name]⟩ : Path).text = stem ++ name := by
  have htext : ∀ body : String, body ≠ "" → (if body = "" then "." else body) = body :=
    fun body h => if_neg h
  by_cases hnames : names = []
  · subst hnames
    refine ⟨root.text, fun name hname => ?_⟩
    have hbody : "/".intercalate ([] ++ [name]) = name := String.intercalate_singleton
    rw [Path.text, hbody]
    exact htext _ (by simp [hname])
  · refine ⟨root.text ++ ("/".intercalate names ++ "/"), fun name hname => ?_⟩
    have hbody : "/".intercalate (names ++ [name]) = "/".intercalate names ++ "/" ++ name := by
      rw [String.intercalate_append_of_ne_nil hnames (List.cons_ne_nil _ _),
        String.intercalate_singleton]
    rw [Path.text, hbody, ← String.append_assoc]
    exact htext _ (by simp [hname])

/-- A shorter last name makes no path too long. -/
theorem Path.TooLong.of_name {root : Root} {names : List String} {short long : String}
    (hshort : short ≠ "") (hlong : long ≠ "") (hle : short.utf8ByteSize ≤ long.utf8ByteSize)
    (h : (⟨root, names ++ [short]⟩ : Path).TooLong) :
    (⟨root, names ++ [long]⟩ : Path).TooLong := by
  obtain ⟨stem, hstem⟩ := Path.exists_text_snoc root names
  rcases h with htext | ⟨name, hname, hsize⟩
  · left
    rw [hstem _ hshort, String.utf8ByteSize_append] at htext
    rw [hstem _ hlong, String.utf8ByteSize_append]
    exact Nat.le_trans htext (Nat.add_le_add_left hle _)
  · right
    rcases List.mem_append.mp hname with hbefore | hlast
    · exact ⟨name, List.mem_append_left _ hbefore, hsize⟩
    · obtain rfl := List.mem_singleton.mp hlast
      refine ⟨long, List.mem_append_right _ (List.mem_singleton.mpr rfl), ?_⟩
      exact Nat.lt_of_lt_of_le hsize hle

open Work

/-! ## Folders of modules that were loaded -/

theorem folder_declaredModule {path folder : Path} {v : Json} {m : Module} {w w' : Workshop}
    (h : (declaredModule path folder v).run w = (.ok m, w')) : m.folder = folder := by
  unfold declaredModule at h
  split at h
  · split at h
    · rename_i hm
      cases h
      exact (Declaration.moduleOfFields_ok hm).folder
    · cases h
    · cases h
  · cases h

/-- The module was found in some file tree. -/
def Module.Loaded (m : Module) : Prop :=
  ∃ (folder : Path) (w w' : Workshop), (loadModule folder).run w = (.ok m, w')

namespace Module.Loaded

variable {m : Module}

theorem declaration_found (h : m.Loaded) : ∃ (d : Disk) (here place : Place),
    Work.hasNull (m.folder.child Module.declarationName) = false
      ∧ d.follow here (m.folder.child Module.declarationName) = .ok place := by
  obtain ⟨folder, w, w', hload⟩ := h
  obtain ⟨top, _, -, hthen⟩ := bind_ok.mp hload
  obtain ⟨there, w₂, -, hthen⟩ := bind_ok.mp hthen
  cases there with
  | false => cases hthen
  | true =>
      obtain ⟨text, _, hread, hthen⟩ := bind_ok.mp hthen
      obtain ⟨v, _, -, hmodule⟩ := bind_ok.mp hthen
      obtain ⟨bytes, _, hbytes, -⟩ := bind_ok.mp hread
      obtain ⟨hnull, -, place, hfollow, -⟩ := readBytes_ok.mp hbytes
      rw [folder_declaredModule hmodule]
      exact ⟨_, _, place, hnull, hfollow⟩

theorem noNull (h : m.Loaded) : Work.hasNull m.folder = false := by
  obtain ⟨_, _, _, hnull, -⟩ := h.declaration_found
  rw [Work.hasNull, List.any_eq_false] at hnull ⊢
  exact fun n hn => hnull n (List.mem_append_left _ hn)

/-- In the module's folder no name is too long that is no longer than the declaration's. -/
theorem not_tooLong_child (h : m.Loaded) {name : String} (hname : name ≠ "")
    (hsize : name.utf8ByteSize ≤ Module.declarationName.utf8ByteSize) :
    ¬ (⟨m.folder.root, m.folder.names ++ [name]⟩ : Path).TooLong := by
  obtain ⟨d, here, place, -, hfollow⟩ := h.declaration_found
  have hdeclaration : ¬ (⟨m.folder.root, m.folder.names ++ ["ModuleInfo.json"]⟩ : Path).TooLong :=
    Disk.not_tooLong_of_follow hfollow
  exact fun hlong => hdeclaration (Path.TooLong.of_name hname (by decide) hsize hlong)

/-- The names of the folders asked about are no longer than that of the declaration. -/
theorem not_tooLong (h : m.Loaded) :
    ¬ m.includeDir.TooLong ∧ ¬ m.codebuildExportDir.TooLong :=
  ⟨h.not_tooLong_child (by decide) (by decide), h.not_tooLong_child (by decide) (by decide)⟩

end Module.Loaded

end PatchForge
