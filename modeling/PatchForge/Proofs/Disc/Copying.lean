import PatchForge.Proofs.Disc.Files
import PatchForge.Proofs.Generation.Untouched

/-!
# Copying one disc file

A disc file is either copied or reported (`Handled`), whatever is in its
way: making folders and copying fail only with failures of the file tree,
and these are caught (`copyDiscFile_run`). Either way the tree is as it
was but for new folders and, if the file was copied, its copy. That is
said by a relation that composes (`Copies`), so that it holds of any
number of files: under the output a place has the last copy that was made
there, and no other file changes.

What is in the way of a file is a folder at its place or a file on the way
there (`Disk.Obstructed`). Where the path can be used at all, nothing else
keeps it from being copied (`replaceFile_of_clear`). Neither goes away
again, so what became of a file can be seen from the tree in the end
(`Handled.Settled`).
-/

namespace PatchForge

open Work Disk

namespace Work

variable {p source target : Path} {content : ByteArray} {w w' : Workshop}

/-! ## Places that come once -/

/-- No place comes twice, if none did before. -/
def KeepsPlaces (w w' : Workshop) : Prop :=
  (w.disk.entries.map Prod.fst).Nodup → (w'.disk.entries.map Prod.fst).Nodup

theorem KeepsPlaces.refl (w : Workshop) : KeepsPlaces w w := id

theorem KeepsPlaces.trans {w₁ w₂ w₃ : Workshop} (h : KeepsPlaces w₁ w₂) (h' : KeepsPlaces w₂ w₃) :
    KeepsPlaces w₁ w₃ := fun hw => h' (h hw)

abbrev keepingPlaces : Contract := .moving KeepsPlaces KeepsPlaces.refl KeepsPlaces.trans

theorem keepingPlaces_makeFolder (p : Path) : Meets keepingPlaces (makeFolder p) := by
  intro w
  cases hrun : (makeFolder p).run w with
  | mk result w' =>
      cases result with
      | error f =>
          rw [change_error hrun]
          exact KeepsPlaces.refl w
      | ok u =>
          obtain ⟨-, d, hd, rfl⟩ := change_ok.mp hrun
          obtain ⟨place, -, -, rfl⟩ := Disk.makeFolder_ok.mp hd
          exact fun hw => nodup_put hw place .folder

theorem keepingPlaces_makeFolders (p : Path) : Meets keepingPlaces (makeFolders p) :=
  moving_makeFoldersFrom _ fun q _ => keepingPlaces_makeFolder q

/-! ## Nothing in the way -/

theorem keeping_makeFolders {γ : Type} {π : Workshop → γ}
    (h : ∀ q : Path, q.Above p → Meets (.keeping π) (makeFolder q)) :
    Meets (.keeping π) (makeFolders p) :=
  @moving_makeFoldersFrom (fun w w' => π w' = π w) (fun _ => rfl) (fun h h' => h'.trans h) _ _ h

theorem exists?_of_usable (h : p.Usable) (w : Workshop) :
    ∃ there, (exists? p).run w = (.ok there, w) := by
  cases hfind : w.disk.find w.here p with
  | ok found =>
      obtain ⟨hfollow, hget⟩ := find_ok.mp hfind
      refine ⟨true, ?_⟩
      rw [exists?_of_follow h.noNull hfollow, hget]
      rfl
  | error e =>
      have hentry : (lookUp? p).run w = (.ok none, w) := by
        unfold lookUp?
        simp only [h.noNull, Bool.false_eq_true, if_false, run_bind, run_get, hfind]
        rcases Disk.find_error hfind with rfl | rfl | ⟨-, hlong⟩
        · rfl
        · rfl
        · exact (h.short hlong).elim
      refine ⟨false, ?_⟩
      rw [exists?, run_bind, hentry]
      rfl

end Work

/-- A folder lies at the place, or a file on the way there. -/
def Disk.Obstructed (d : Disk) (place : Place) : Prop :=
  d.get? place = some .folder
    ∨ ∃ q content, q <+: place ∧ q ≠ place ∧ d.get? q = some (.file content)

section

variable {w w' : Workshop} {source target : Path} {content : ByteArray}

/-- Where nothing is in the way the folders for a file are made, and nothing else changes there. -/
theorem makeFolders_of_clear (ht : target.Usable) (hclear : ¬ w.disk.Obstructed target.names) :
    ∃ w₁, (makeFolders target.parent).run w = (.ok (), w₁)
      ∧ w₁.disk.get? target.names = w.disk.get? target.names
      ∧ w₁.disk.follow w₁.here target = .ok target.names := by
  obtain ⟨hfolder, hfile⟩ := not_or.mp hclear
  have hne : target.names ≠ [] := ne_top_of_get?_ne hfolder
  have hshorter : ∀ q, q <+: target.parent.names → q <+: target.names ∧ q ≠ target.names := by
    intro q hq
    refine ⟨hq.trans (List.dropLast_prefix _), ?_⟩
    rintro rfl
    have hlength := hq.length_le
    have hpos := List.length_pos_iff.mpr hne
    rw [Path.parent, List.length_dropLast] at hlength
    omega
  have hfree : target.parent.Free w.disk :=
    { ht.parent with
      noFile := fun q hq content hget =>
        hfile ⟨q, content, (hshorter q hq).1, (hshorter q hq).2, hget⟩ }
  have hone : ∀ q : Path, q.Above target.parent →
      Meets (.keeping fun w : Workshop => w.disk.get? target.names) (makeFolder q) := by
    intro q hq w
    have hdown : q.Down :=
      ⟨hq.1.trans ht.down.top, fun hup => ht.parent.down.plain (hq.2.subset hup)⟩
    cases hrun : (makeFolder q).run w with
    | mk result w' =>
        cases result with
        | error f =>
            rw [change_error hrun]
            rfl
        | ok u =>
            obtain ⟨-, d, hd, rfl⟩ := change_ok.mp hrun
            obtain ⟨place, hfollow, hnone, rfl⟩ := Disk.makeFolder_ok.mp hd
            obtain ⟨rfl, -⟩ := place_of_follow hdown hfollow
            show (w.disk.put q.names .folder).get? target.names = w.disk.get? target.names
            rw [get?_put_place _ _ _ (by simp [hnone]), if_neg (hshorter _ hq.2).2.symm]
  have hstays : Meets (.keeping fun w : Workshop => w.disk.get? target.names)
      (makeFolders target.parent) :=
    keeping_makeFolders hone
  obtain ⟨w₁, hmake⟩ := makeFolders_of_free hfree
  obtain ⟨-, hleads⟩ := makeFolders_ok hmake
  exact ⟨w₁, hmake, hstays.ok hmake, ht.follow_of_parent hleads⟩

/-- A file is copied to a usable path that nothing is in the way of. -/
theorem replaceFile_of_clear (ht : target.Usable) (hclear : ¬ w.disk.Obstructed target.names)
    (hs : hasNull source = false) {a : Place} (hleads : w.disk.follow w.here source = .ok a)
    (hfile : w.disk.get? a = some (.file content)) (hapart : a ≠ target.names) :
    ∃ w', (replaceFile source target).run w = (.ok (), w') := by
  have hcopies : ∀ said, ∃ w',
      (do makeFolders target.parent; copyFile source target : Work Unit).run
        { w with said } = (.ok (), w') := by
    intro said
    obtain ⟨w₁, hmake, hget, hfollow⟩ := @makeFolders_of_clear { w with said } target ht hclear
    obtain ⟨⟨hdisk, hgrows⟩, -⟩ := makeFolders_ok hmake
    have hsource : w₁.disk.follow w₁.here source = .ok a := by
      rw [hdisk]
      exact follow_of_keepsFolders hgrows.keepsFolders hleads
    have hcopy := copyFile_of_apart hs ht.noNull hsource hfollow (hgrows.get?_some hfile)
      (hget ▸ (not_or.mp hclear).1) hapart
    rw [run_bind, hmake]
    exact ⟨_, hcopy⟩
  obtain ⟨there, hexists⟩ := exists?_of_usable ht w
  rw [replaceFile, run_bind, hexists]
  cases there with
  | true => exact hcopies _
  | false => exact hcopies _

end

/-! ## What became of a file -/

/-- A file of a disc folder, by the names that lead to it from there, and what was done with it:
whether it was said to replace another one, and why it could not be copied, if it could not. -/
structure Handled where
  names : List String
  content : ByteArray
  replaced : Bool
  fault : Option Failure

namespace Handled

def file (h : Handled) : List String × ByteArray := (h.names, h.content)

/-- Where the file was copied to. -/
def copied? (output : Path) (h : Handled) : Option Path :=
  match h.fault with
  | none => some (output.under h.names)
  | some _ => none

/-- What is said before a file is replaced. -/
def notice (target : Path) (replaced : Bool) : List String :=
  if replaced then [(Notice.info (" - File will replace " ++ target.text) none).shown] else []

/-- What is said about the file: that it replaces another one, and a warning if it failed. -/
def lines (folder output : Path) (h : Handled) : List String :=
  notice (output.under h.names) h.replaced ++
    match h.fault with
    | none => []
    | some f => [(Notice.warning ("Error while copying " ++ (folder.under h.names).text ++ ": " ++
        f.message) none).shown]

end Handled

/-- What the last of the files that were copied to a place under the output has put there. -/
def lastCopy (handled : List Handled) (names : List String) : Option ByteArray :=
  ((handled.filter fun h => h.names = names && h.fault.isNone).getLast?).map (·.content)

theorem lastCopy_append (l l' : List Handled) (names : List String) :
    lastCopy (l ++ l') names = (lastCopy l' names).or (lastCopy l names) := by
  rw [lastCopy, List.filter_append, List.getLast?_append, Option.map_or]
  rfl

/-- From one workshop to the other these files were handled and this was said. Files have changed
under the output alone, where the last copy has been left. -/
structure Copies (out : Place) (handled : List Handled) (said : List String) (w w' : Workshop) :
    Prop where
  rest : w' = { w with disk := w'.disk, said := w.said ++ said }
  folders : KeepsFolders w.disk w'.disk
  places : KeepsPlaces w w'
  inside : ∀ names, w'.disk.file? (out ++ names)
    = (lastCopy handled names).or (w.disk.file? (out ++ names))
  outside : ∀ place, ¬ out <+: place → w'.disk.file? place = w.disk.file? place

namespace Copies

variable {out : Place} {l l' : List Handled} {said said' : List String} {w w₁ w' : Workshop}

theorem refl (w : Workshop) : Copies out [] [] w w where
  rest := by rw [List.append_nil]
  folders := KeepsFolders.refl _
  places := KeepsPlaces.refl w
  inside _ := rfl
  outside _ _ := rfl

theorem append (h : Copies out l said w w₁) (h' : Copies out l' said' w₁ w') :
    Copies out (l ++ l') (said ++ said') w w' where
  rest := by rw [h'.rest, h.rest, List.append_assoc]
  folders := h.folders.trans h'.folders
  places := h.places.trans h'.places
  inside names := by rw [h'.inside, h.inside, lastCopy_append, Option.or_assoc]
  outside place hplace := by rw [h'.outside place hplace, h.outside place hplace]

theorem here (h : Copies out l said w w') : w'.here = w.here := by rw [h.rest]

/-- Where a file was there still is one. -/
theorem file_stays (h : Copies out l said w w') {place : Place} {content : ByteArray}
    (hfile : w.disk.file? place = some content) :
    ∃ content, w'.disk.file? place = some content := by
  by_cases hout : out <+: place
  · obtain ⟨names, rfl⟩ := hout
    rw [h.inside, hfile]
    cases lastCopy l names with
    | none => exact ⟨content, rfl⟩
    | some last => exact ⟨last, rfl⟩
  · exact ⟨content, by rw [h.outside place hout, hfile]⟩

end Copies

/-! ### What the tree tells of it -/

/-- Where the file's new path is usable, the file is there behind folders if it was copied, and
something is in its way if it was not. -/
def Handled.Settled (d : Disk) (output : Path) (x : Handled) : Prop :=
  (output.under x.names).Usable →
    match x.fault with
    | none => (∃ content, d.file? (output.under x.names).names = some content)
        ∧ ∀ q, q <+: (output.under x.names).names → q ≠ (output.under x.names).names →
          d.get? q = some .folder
    | some _ => d.Obstructed (output.under x.names).names

namespace Handled.Settled

variable {out : Place} {l : List Handled} {said : List String} {w w' : Workshop} {d : Disk}
  {output : Path} {x : Handled}

/-- Files and folders stay files and folders, so what became of a file still shows later. -/
theorem after (h : x.Settled w.disk output) (hcopies : Copies out l said w w') :
    x.Settled w'.disk output := by
  intro husable
  have hbefore := h husable
  cases hfault : x.fault with
  | none =>
      rw [hfault] at hbefore
      obtain ⟨⟨content, hfile⟩, hfolders⟩ := hbefore
      exact ⟨hcopies.file_stays hfile, fun q hq hne => hcopies.folders q (hfolders q hq hne)⟩
  | some f =>
      rw [hfault] at hbefore
      rcases hbefore with hfolder | ⟨q, content, hq, hne, hget⟩
      · exact Or.inl (hcopies.folders _ hfolder)
      · obtain ⟨content', hfile⟩ := hcopies.file_stays (file?_eq_some.mpr hget)
        exact Or.inr ⟨q, content', hq, hne, file?_eq_some.mp hfile⟩

/-- A file was copied exactly if nothing is in its way. -/
theorem fault_eq_none_iff (h : x.Settled d output) (husable : (output.under x.names).Usable) :
    x.fault = none ↔ ¬ d.Obstructed (output.under x.names).names := by
  have hsettled := h husable
  cases hfault : x.fault with
  | none =>
      rw [hfault] at hsettled
      obtain ⟨⟨content, hfile⟩, hfolders⟩ := hsettled
      refine ⟨fun _ => ?_, fun _ => rfl⟩
      rintro (hfolder | ⟨q, content', hq, hne, hget⟩)
      · rw [file?_eq_some.mp hfile] at hfolder
        cases hfolder
      · rw [hfolders q hq hne] at hget
        cases hget
  | some f =>
      rw [hfault] at hsettled
      exact ⟨nofun, fun hclear => (hclear hsettled).elim⟩

end Handled.Settled

/-! ## Copying one file -/

section

variable {w : Workshop} {source target : Path} {content : ByteArray}

/-- The workshop after something more was said. -/
def Workshop.telling (w : Workshop) (lines : List String) : Workshop :=
  { w with said := w.said ++ lines }

theorem Workshop.telling_nil (w : Workshop) : w.telling [] = w := by
  rw [Workshop.telling, List.append_nil]

/-- Making the folders that a copy needs and copying ends in one of two ways: the file is there,
or a failure of the file tree has left new folders at most. -/
theorem makeAndCopy_run (hs : hasNull source = false) (ht : hasNull target = false)
    {a : Place} (hleads : w.disk.follow w.here source = .ok a)
    (hfile : w.disk.get? a = some (.file content)) :
    ∃ d, Grows w.disk d ∧ KeepsPlaces w (w.onDisk d)
      ∧ ((∃ b, d.follow w.here target = .ok b ∧ d.get? b ≠ some .folder
          ∧ (do makeFolders target.parent; copyFile source target : Work Unit).run w
            = (.ok (), w.onDisk (d.put b (.file content))))
        ∨ ∃ f, f.isDisk = true
          ∧ (do makeFolders target.parent; copyFile source target : Work Unit).run w
            = (.error f, w.onDisk d)) := by
  cases hmake : (makeFolders target.parent).run w with
  | mk result w₁ =>
      have hgrown : Grown w w₁ := by
        have := growing_makeFoldersFrom (target.parent.names.length + 1) target.parent w
        rwa [show (makeFoldersFrom _ _).run w = (result, w₁) from hmake] at this
      have hplaces : KeepsPlaces w w₁ := by
        have := keepingPlaces_makeFolders target.parent w
        rwa [hmake] at this
      have hbyDisk : Meets failingByDisk (makeFolders target.parent) :=
        failingBy_makeFolders (covers_isDisk (hasNull_parent ht))
      rw [run_bind, hmake]
      obtain ⟨hdisk, hgrows⟩ := hgrown
      refine ⟨w₁.disk, hgrows, hdisk ▸ hplaces, ?_⟩
      cases result with
      | error f => exact Or.inr ⟨f, hbyDisk.error hmake f rfl, by rw [← hdisk]⟩
      | ok u =>
          dsimp only
          cases hcopy : (copyFile source target).run w₁ with
          | mk result w₂ =>
              have hhere : w₁.here = w.here := by rw [hdisk]; rfl
              cases result with
              | error f =>
                  obtain rfl := copyFile_error hcopy
                  exact Or.inr ⟨f, (byDisk_copyFile hs ht).error hcopy f rfl, by rw [← hdisk]⟩
              | ok u =>
                  obtain ⟨a', b, content', -, -, -, hfa, hfb, hga, hgb, rfl⟩ := copyFile_ok hcopy
                  rw [hhere] at hfa hfb
                  obtain rfl := Except.ok.inj
                    (hfa.symm.trans (follow_of_keepsFolders hgrows.keepsFolders hleads))
                  have hsame := hga.symm.trans (hgrows.get?_some hfile)
                  obtain rfl : content' = content := by
                    cases hsame
                    rfl
                  refine Or.inl ⟨b, hfb, hgb, ?_⟩
                  rw [hdisk]
                  rfl

theorem replaceFile_run (hs : hasNull source = false) (ht : hasNull target = false)
    {a : Place} (hleads : w.disk.follow w.here source = .ok a)
    (hfile : w.disk.get? a = some (.file content)) :
    ∃ replaced d, Grows w.disk d ∧ KeepsPlaces w (w.onDisk d)
      ∧ ((∃ b, d.follow w.here target = .ok b ∧ d.get? b ≠ some .folder
          ∧ (replaceFile source target).run w = (.ok (),
            (w.telling (Handled.notice target replaced)).onDisk (d.put b (.file content))))
        ∨ ∃ f, f.isDisk = true ∧ (replaceFile source target).run w
            = (.error f, (w.telling (Handled.notice target replaced)).onDisk d)) := by
  have hasks : Meets (.keeping fun w => w) (exists? target) := meets_exists keeping_files target
  have hexists := run_of_keeping hasks w
  cases hresult : ((exists? target).run w).1 with
  | error f =>
      rw [hresult] at hexists
      refine ⟨false, w.disk, Grows.refl _, KeepsPlaces.refl _, Or.inr ⟨f, ?_, ?_⟩⟩
      · exact (failingBy_exists (covers_isDisk ht)).error hexists f rfl
      · rw [replaceFile, run_bind, hexists]
        exact congrArg (Prod.mk _) w.telling_nil.symm
  | ok replaced =>
      rw [hresult] at hexists
      have hrun : (replaceFile source target).run w
          = (do makeFolders target.parent; copyFile source target : Work Unit).run
            (w.telling (Handled.notice target replaced)) := by
        rw [replaceFile, run_bind, hexists]
        cases replaced with
        | true => rfl
        | false =>
            have hquiet : w.telling (Handled.notice target false) = w := w.telling_nil
            rw [hquiet]
            rfl
      obtain ⟨d, hgrows, hplaces, hends⟩ :=
        @makeAndCopy_run (w.telling (Handled.notice target replaced)) source target content
          hs ht a hleads hfile
      refine ⟨replaced, d, hgrows, hplaces, ?_⟩
      rw [hrun]
      exact hends

/-- A file below a folder that can be read from there. -/
structure Source (w : Workshop) (folder : Path) (e : List String × ByteArray) : Prop where
  plain : ".." ∉ e.1
  noNull : hasNull (folder.under e.1) = false
  leads : w.disk.follow w.here (folder.under e.1) = .ok (folder.names ++ e.1)
  file : w.disk.get? (folder.names ++ e.1) = some (.file e.2)

variable {w' : Workshop} {folder output : Path} {e : List String × ByteArray} {out : Place}
  {handled : List Handled} {said : List String}

/-- Copies leave alone what is not under the output. -/
theorem Source.after (h : Source w folder e) (hcopies : Copies out handled said w w')
    (hapart : ¬ out <+: folder.names ++ e.1) : Source w' folder e where
  plain := h.plain
  noNull := h.noNull
  leads := by
    rw [hcopies.here]
    exact follow_of_keepsFolders hcopies.folders h.leads
  file := by
    rw [← file?_eq_some, hcopies.outside _ hapart, file?_eq_some]
    exact h.file

theorem hasNull_under {names : List String} (hout : hasNull output = false)
    (h : hasNull (folder.under names) = false) : hasNull (output.under names) = false := by
  unfold hasNull Path.under at *
  rw [List.any_append, Bool.or_eq_false_iff] at h ⊢
  exact ⟨hout, h.2⟩

theorem lastCopy_singleton (x : Handled) (names : List String) :
    lastCopy [x] names = if x.names = names ∧ x.fault = none then some x.content else none := by
  unfold lastCopy
  rw [List.filter_cons, List.filter_nil]
  by_cases hx : x.names = names ∧ x.fault = none
  · simp [hx]
  · rw [if_neg (by simpa using hx), if_neg hx]
    rfl

section

variable {d : Disk} {names : List String} (hgrows : Grows w.disk d)
  (hplaces : KeepsPlaces w (w.onDisk d))

include hgrows hplaces

/-- After new folders a file is put under the output. -/
theorem copies_put (hfree : d.get? (out ++ names) ≠ some .folder) (content : ByteArray)
    (replaced : Bool) (said : List String) :
    Copies out [⟨names, content, replaced, none⟩] said w
      ((w.telling said).onDisk (d.put (out ++ names) (.file content))) where
  rest := rfl
  folders := hgrows.keepsFolders.trans (keepsFolders_put _ hfree)
  places hw := nodup_put (hplaces hw) _ _
  inside names' := by
    rw [Workshop.onDisk_disk, file?_put hfree, hgrows.file?_eq, lastCopy_singleton]
    by_cases heq : names = names'
    · rw [if_pos (heq ▸ rfl), if_pos ⟨heq, rfl⟩]
      rfl
    · rw [if_neg fun h => heq (List.append_cancel_left h).symm, if_neg fun h => heq h.1]
      rfl
  outside place hplace := by
    rw [Workshop.onDisk_disk, file?_put hfree, hgrows.file?_eq, if_neg]
    rintro rfl
    exact hplace (List.prefix_append ..)

/-- New folders alone are no change to any file. -/
theorem copies_failed (content : ByteArray) (replaced : Bool) (f : Failure) (said : List String) :
    Copies out [⟨names, content, replaced, some f⟩] said w ((w.telling said).onDisk d) where
  rest := rfl
  folders := hgrows.keepsFolders
  places := hplaces
  inside names' := by
    rw [lastCopy_singleton, if_neg fun h => Option.some_ne_none f h.2]
    exact hgrows.file?_eq _
  outside place _ := hgrows.file?_eq place

end

/-- One disc file is copied or reported, and reported only if something is in its way. -/
theorem copyDiscFile_run (h : Source w folder e) (hout : hasNull output = false)
    (hapart : ¬ output.placeFrom w.here <+: folder.names ++ e.1) :
    ∃ (x : Handled) (w' : Workshop), x.file = e ∧ (∀ f ∈ x.fault, f.isDisk = true)
      ∧ x.Settled w'.disk output
      ∧ (copyDiscFile folder output (folder.under e.1)).run w = (.ok (x.copied? output), w')
      ∧ Copies (output.placeFrom w.here) [x] (x.lines folder output) w w' := by
  obtain ⟨replaced, d, hgrows, hplaces, hends⟩ :=
    replaceFile_run h.noNull (hasNull_under hout h.noNull) h.leads h.file
  rcases hends with ⟨b, hfollow, hfree, hrun⟩ | ⟨f, hf, hrun⟩
  · obtain rfl : b = output.placeFrom w.here ++ e.1 := by
      rw [placeFrom_of_follow hfollow, Path.placeFrom_under _ _ h.plain]
    have hlines : Handled.lines folder output ⟨e.1, e.2, replaced, none⟩
        = Handled.notice (output.under e.1) replaced := List.append_nil _
    refine ⟨⟨e.1, e.2, replaced, none⟩,
      (w.telling (Handled.notice (output.under e.1) replaced)).onDisk
        (d.put (output.placeFrom w.here ++ e.1) (.file e.2)), rfl, by rintro _ ⟨⟩,
      fun husable => ?_, ?_, ?_⟩
    · obtain ⟨hplace, hfolders⟩ := place_of_follow husable.down hfollow
      rw [hplace] at hfree ⊢
      refine ⟨⟨e.2, (file?_put hfree e.2 _).trans (if_pos rfl)⟩, fun q hq hne => ?_⟩
      exact keepsFolders_put _ hfree q (hfolders q hq hne)
    · unfold copyDiscFile
      rw [Path.join_drop, run_bind, run_tryCatch, run_bind, hrun]
      rfl
    · rw [hlines]
      exact copies_put hgrows hplaces hfree e.2 replaced _
  · have hlines : (w.telling (Handled.lines folder output ⟨e.1, e.2, replaced, some f⟩)).onDisk d
        = ((w.telling (Handled.notice (output.under e.1) replaced)).onDisk d).telling
          [(Notice.warning ("Error while copying " ++ (folder.under e.1).text ++ ": " ++
            f.message) none).shown] := by
      simp only [Workshop.telling, Workshop.onDisk, Handled.lines, List.append_assoc]
    refine ⟨⟨e.1, e.2, replaced, some f⟩, _, rfl, fun f' hf' => ?_, fun husable => ?_, ?_,
      copies_failed hgrows hplaces e.2 replaced f _⟩
    · obtain rfl : f = f' := Option.some.inj hf'
      exact hf
    · -- Without an obstacle the file would have been copied; new folders take none away.
      have hobstructed : w.disk.Obstructed (output.under e.1).names := by
        by_contra hclear
        have hplace : output.placeFrom w.here ++ e.1 = (output.under e.1).names := by
          rw [← Path.placeFrom_under w.here output h.plain, husable.down.placeFrom]
        have hother : folder.names ++ e.1 ≠ (output.under e.1).names := by
          intro heq
          rw [heq, ← hplace] at hapart
          exact hapart (List.prefix_append ..)
        obtain ⟨w', hcopied⟩ :=
          replaceFile_of_clear husable hclear h.noNull h.leads h.file hother
        rw [hrun] at hcopied
        cases hcopied
      rcases hobstructed with hfolder | ⟨q, content, hq, hne, hget⟩
      · exact Or.inl (hgrows.get?_some hfolder)
      · exact Or.inr ⟨q, content, hq, hne, hgrows.get?_some hget⟩
    · unfold copyDiscFile
      rw [Path.join_drop, run_bind, run_tryCatch, run_bind, hrun]
      dsimp only
      rw [if_pos hf, hlines]
      rfl

end

end PatchForge
