import PatchForge.Disk

/-!
# Places and what leads to them

A path leads to a place through folders only: nothing else about a tree
decides where it leads. So a path that leads somewhere keeps leading
there for as long as no folder goes away (`follow_of_keepsFolders`), and
every statement about a tree that changes over time rests on that.

The operations are stated through the place their path leads to and what
lies there, one equivalence for each.
-/

namespace PatchForge

namespace Dict

variable {α β : Type} [BEq α] [LawfulBEq α]

/-- What is kept by its key is found, and nothing else. -/
theorem get?_filter (d : Dict α β) (keep : α → Bool) (key : α) :
    get? (d.filter fun e => keep e.1) key = if keep key then d.get? key else none := by
  induction d with
  | nil => simp
  | cons e d ih =>
      obtain ⟨k, v⟩ := e
      by_cases hk : key = k
      · subst hk
        cases hkeep : keep key with
        | true => simp [hkeep, get?_cons]
        | false => simpa [hkeep] using ih
      · cases hkeep : keep k with
        | true => simpa [hkeep, get?_cons, hk] using ih
        | false => simpa [hkeep, get?_cons, hk] using ih

end Dict

namespace Disk

variable {d d' : Disk} {here place : Place} {p : Path}

/-! ## What lies at a place after a change -/

theorem ne_top_of_get?_ne (h : d.get? place ≠ some .folder) : place ≠ [] := by
  rintro rfl
  exact h rfl

/-- Only what lies at the place is put. -/
theorem get?_put_place (d : Disk) (other : Place) (entry : Entry)
    (h : d.get? place ≠ some .folder) :
    (d.put place entry).get? other = if other = place then some entry else d.get? other :=
  get?_put d other entry (ne_top_of_get?_ne h)

/-- Only what lies at the place is erased. -/
theorem get?_erase (d : Disk) (other : Place) (h : d.get? place ≠ some .folder) :
    (d.erase place).get? other = if other = place then none else d.get? other := by
  have hp := ne_top_of_get?_ne h
  unfold get? erase
  by_cases ho : other = []
  · rw [if_pos ho, if_neg fun e => hp (e.symm.trans ho), if_pos ho]
  · simp only [ho, if_false]
    rw [Dict.get?_filter d.entries (fun q => decide (q ≠ place))]
    by_cases hother : other = place
    · simp [hother]
    · simp [hother]

/-! ## Trees with the same folders -/

/-- What is a folder stays one. -/
def KeepsFolders (d d' : Disk) : Prop :=
  ∀ place, d.get? place = some .folder → d'.get? place = some .folder

theorem KeepsFolders.refl (d : Disk) : KeepsFolders d d := fun _ h => h

theorem KeepsFolders.trans {d'' : Disk} (h : KeepsFolders d d') (h' : KeepsFolders d' d'') :
    KeepsFolders d d'' := fun place hd => h' place (h place hd)

theorem keepsFolders_put (entry : Entry) (h : d.get? place ≠ some .folder) :
    KeepsFolders d (d.put place entry) := by
  intro other ho
  rw [get?_put_place d other entry h, if_neg]
  · exact ho
  · rintro rfl
    exact h ho

theorem keepsFolders_erase (h : d.get? place ≠ some .folder) : KeepsFolders d (d.erase place) := by
  intro other ho
  rw [get?_erase d other h, if_neg]
  · exact ho
  · rintro rfl
    exact h ho

/-- A step is taken from a folder. -/
theorem folder_of_step {name : String} {next : Place} (h : d.step place name = .ok next) :
    d.get? place = some .folder := by
  unfold step at h
  split at h
  · cases h
  · cases h
  · assumption

theorem step_of_keepsFolders (hd : KeepsFolders d d') {name : String} {next : Place}
    (h : d.step place name = .ok next) : d'.step place name = .ok next := by
  have hf := folder_of_step h
  unfold step at h ⊢
  rw [hf] at h
  rw [hd place hf]
  exact h

theorem walk_of_keepsFolders (hd : KeepsFolders d d') :
    ∀ {names : List String} {place next : Place},
      d.walk place names = .ok next → d'.walk place names = .ok next
  | [], _, _, h => h
  | name :: names, place, next, h => by
      rw [walk] at h ⊢
      cases hs : d.step place name with
      | ok q =>
          rw [hs] at h
          rw [step_of_keepsFolders hd hs]
          exact walk_of_keepsFolders hd h
      | error e =>
          rw [hs] at h
          cases h

/-- A path leads where it led while the folders stay. -/
theorem follow_of_keepsFolders (hd : KeepsFolders d d') (h : d.follow here p = .ok place) :
    d'.follow here p = .ok place := by
  unfold follow at h ⊢
  split at h
  · cases h
  · rename_i hl
    rw [if_neg hl]
    exact walk_of_keepsFolders hd h

/-- The path leads to a folder. -/
def LeadsToFolder (d : Disk) (here : Place) (p : Path) : Prop :=
  ∃ place, d.follow here p = .ok place ∧ d.get? place = some .folder

theorem LeadsToFolder.mono (hd : KeepsFolders d d') (h : LeadsToFolder d here p) :
    LeadsToFolder d' here p := by
  obtain ⟨place, hf, hg⟩ := h
  exact ⟨place, follow_of_keepsFolders hd hf, hd place hg⟩

/-! ## Trees that gain folders -/

/-- All that was there is there, and what is new is a folder. -/
def Grows (d d' : Disk) : Prop :=
  ∀ place, d'.get? place = d.get? place
    ∨ d.get? place = none ∧ d'.get? place = some .folder

theorem Grows.refl (d : Disk) : Grows d d := fun _ => Or.inl rfl

theorem Grows.get?_some (h : Grows d d') {entry : Entry} (hg : d.get? place = some entry) :
    d'.get? place = some entry := by
  rcases h place with heq | ⟨hnone, -⟩
  · rw [heq, hg]
  · rw [hnone] at hg
    cases hg

theorem Grows.keepsFolders (h : Grows d d') : KeepsFolders d d' := fun _ hg => h.get?_some hg

/-- A file was not gained. -/
theorem Grows.file (h : Grows d d') {content : ByteArray}
    (hg : d'.get? place = some (.file content)) : d.get? place = some (.file content) := by
  rcases h place with heq | ⟨-, hfolder⟩
  · rw [← heq, hg]
  · rw [hfolder] at hg
    cases hg

theorem Grows.trans {d'' : Disk} (h : Grows d d') (h' : Grows d' d'') : Grows d d'' := by
  intro place
  rcases h' place with heq' | ⟨hnone', hfolder'⟩
  · rw [heq']
    exact h place
  · rcases h place with heq | ⟨-, hfolder⟩
    · exact Or.inr ⟨heq ▸ hnone', hfolder'⟩
    · rw [hfolder] at hnone'
      cases hnone'

theorem grows_put_folder (h : d.get? place = none) : Grows d (d.put place .folder) := by
  intro other
  have hne : d.get? place ≠ some .folder := by simp [h]
  rw [get?_put_place d other .folder hne]
  by_cases ho : other = place
  · subst ho
    exact Or.inr ⟨h, if_pos rfl⟩
  · exact Or.inl (if_neg ho)

/-! ## Operations by place -/

theorem find_ok {entry : Entry} :
    d.find here p = .ok (place, entry) ↔
      d.follow here p = .ok place ∧ d.get? place = some entry := by
  unfold find
  cases d.follow here p with
  | error e => simp
  | ok q =>
      dsimp only
      split
      · rename_i e hq
        simp only [Except.ok.injEq, Prod.mk.injEq]
        constructor
        · rintro ⟨rfl, rfl⟩
          exact ⟨rfl, hq⟩
        · rintro ⟨rfl, h⟩
          exact ⟨rfl, Option.some.inj (hq.symm.trans h)⟩
      · rename_i hq
        simp only [reduceCtorEq, Except.ok.injEq, false_iff, not_and]
        rintro rfl
        simp [hq]

theorem find_missing (hf : d.follow here p = .ok place) (hg : d.get? place = none) :
    d.find here p = .error .missing := by
  simp [find, hf, hg]

theorem read_ok {content : ByteArray} :
    d.read here p = .ok content ↔
      ∃ place, d.follow here p = .ok place ∧ d.get? place = some (.file content) := by
  unfold read
  constructor
  · intro h
    split at h
    · rename_i q c hq
      cases h
      exact ⟨q, find_ok.mp hq⟩
    · cases h
    · cases h
  · rintro ⟨q, hq⟩
    rw [find_ok.mpr hq]

theorem write_ok {content : ByteArray} :
    d.write here p content = .ok d' ↔
      ∃ place, d.follow here p = .ok place ∧ d.get? place ≠ some .folder
        ∧ d' = d.put place (.file content) := by
  unfold write
  cases d.follow here p with
  | error e => simp
  | ok q =>
      simp only [Except.ok.injEq, exists_eq_left']
      split
      · rename_i hq
        simp [hq]
      · rename_i hq
        simp only [Except.ok.injEq]
        exact ⟨fun h => ⟨hq, h.symm⟩, fun h => h.2.symm⟩

theorem unlink_ok :
    d.unlink here p = .ok d' ↔
      ∃ place content, d.follow here p = .ok place
        ∧ d.get? place = some (.file content) ∧ d' = d.erase place := by
  unfold unlink
  constructor
  · intro h
    split at h
    · rename_i q c hq
      cases h
      obtain ⟨hf, hg⟩ := find_ok.mp hq
      exact ⟨q, c, hf, hg, rfl⟩
    · cases h
    · cases h
  · rintro ⟨q, c, hf, hg, rfl⟩
    rw [find_ok.mpr ⟨hf, hg⟩]

theorem makeFolder_ok :
    d.makeFolder here p = .ok d' ↔
      ∃ place, d.follow here p = .ok place ∧ d.get? place = none ∧ d' = d.put place .folder := by
  unfold makeFolder
  cases d.follow here p with
  | error e => simp
  | ok q =>
      simp only [Except.ok.injEq, exists_eq_left']
      split
      · rename_i hq
        simp [hq]
      · rename_i hq
        simp only [hq, true_and, Except.ok.injEq]
        exact eq_comm

end Disk

/-! ## Paths above others -/

/-- The path `q` is `p` or lies above it. -/
def Path.Above (q p : Path) : Prop := q.root = p.root ∧ q.names <+: p.names

theorem Path.Above.refl (p : Path) : p.Above p := ⟨rfl, List.prefix_rfl⟩

theorem Path.Above.of_parent {q p : Path} (h : q.Above p.parent) : q.Above p :=
  ⟨h.1, h.2.trans (List.dropLast_prefix _)⟩

/-! ## Paths to one file -/

/-- The paths lead to one place. -/
def SameFile (d : Disk) (here : Place) (p q : Path) : Prop :=
  ∃ place, d.follow here p = .ok place ∧ d.follow here q = .ok place

theorem sameFile_iff {d : Disk} {here : Place} {p q : Path} :
    SameFile d here p q ↔ (d.follow here p).toOption.isSome
      ∧ (d.follow here p).toOption = (d.follow here q).toOption := by
  unfold SameFile
  cases d.follow here p <;> cases d.follow here q <;> simp [Except.toOption, eq_comm]

instance (d : Disk) (here : Place) (p q : Path) : Decidable (SameFile d here p q) :=
  decidable_of_iff _ sameFile_iff.symm

end PatchForge
