import PatchForge.Proofs.Work.Run

/-!
# Effects of file work

What a piece of work may do beside giving its result is said by two
contracts. Work that is `looking` leaves the workshop as it was but for
what it said. And work on files fails only with failures of files
(`failing_writeText`, `failing_makeFolders` and so on), whatever it does;
on paths without null characters these are failures of the file tree
(`failingByDisk`). Which failures a path can lead to is all that differs
(`Covers`), so changes are gone through once for both.

Questions about the file tree meet any contract that lets them fail
(`Contract.Admits`), so they too are gone through once.
-/

namespace PatchForge

/-- Failures of the file tree, of names in it and of the bytes of its files. -/
def Failure.isOfFiles : Failure → Bool
  | .disk .. | .notRemovable _ | .sameFile .. | .utf8 _ | .nullCharacter => true
  | _ => false

/-- The workshop apart from what was said in it. -/
def Workshop.silent (w : Workshop) : Workshop := { w with said := [] }

theorem Workshop.eq_of_silent {w w' : Workshop} (h : w'.silent = w.silent) :
    w'.disk = w.disk ∧ w'.started = w.started := by
  have hdisk := congrArg Workshop.disk h
  have hstarted := congrArg Workshop.started h
  exact ⟨hdisk, hstarted⟩

namespace Work

variable {α β : Type} {C : Contract}

/-- The failures `E` are allowed where nothing was changed. -/
def Contract.Admits (C : Contract) (E : Failure → Prop) : Prop :=
  ∀ f, E f → ∀ w, C.allows w (some f) w

/-- It does not matter what is said. -/
def Contract.Hears (C : Contract) : Prop :=
  ∀ w said, C.allows w none { w with said }

/-- Nothing but what was said changes. -/
abbrev looking : Contract := .keeping Workshop.silent

theorem moving_admits {R : Workshop → Workshop → Prop} {refl : ∀ w, R w w}
    {trans : ∀ {w₁ w₂ w₃}, R w₁ w₂ → R w₂ w₃ → R w₁ w₃} (E : Failure → Prop) :
    Contract.Admits (.moving R refl trans) E := fun _ _ w => refl w

theorem keeping_files {γ : Type} {π : Workshop → γ} :
    Contract.Admits (.keeping π) (·.isOfFiles) := fun _ _ _ => rfl

theorem looking_hears : Contract.Hears looking := fun _ _ => rfl

theorem failingBy_admits {E E' : Failure → Prop} (h : ∀ f, E f → E' f) :
    Contract.Admits (.failingBy E') E := by
  rintro f hf w _ ⟨⟩
  exact h f hf

theorem failingBy_hears (E : Failure → Prop) : Contract.Hears (.failingBy E) := by
  rintro w said _ ⟨⟩

theorem failingBy_mono {E E' : Failure → Prop} {x : Work α} (h : ∀ f, E f → E' f)
    (hx : Meets (.failingBy E) x) : Meets (.failingBy E') x :=
  fun w f hf => h f (hx w f hf)

theorem meets_fail {E : Failure → Prop} (hC : C.Admits E) {f : Failure} (hf : E f) :
    Meets C (fail f : Work α) := hC f hf

/-- Something done on a condition, which it may need, before the rest of the work. -/
theorem meets_where {c : Prop} [Decidable c] {x : Work PUnit} {rest : Work α}
    (hx : c → Meets C x) (hrest : Meets C rest) :
    Meets C (do
      if c then x
      rest) := by
  by_cases hc : c
  · rw [if_pos hc]
    exact meets_bind (hx hc) fun _ => hrest
  · rwa [if_neg hc]

theorem meets_when {c : Prop} [Decidable c] {x : Work PUnit} {rest : Work α}
    (hx : Meets C x) (hrest : Meets C rest) :
    Meets C (do
      if c then x
      rest) :=
  meets_where (fun _ => hx) hrest

/-! ## Saying something -/

theorem meets_say (hC : C.Hears) (n : Notice) : Meets C (say n) := fun w => hC w _

theorem meets_sayIf (hC : C.Hears) (verbose : Bool) (n : Notice) : Meets C (sayIf verbose n) :=
  meets_ite (meets_say hC n) (meets_pure ())

theorem meets_sayLines (hC : C.Hears) : ∀ lines : List String, Meets C (sayLines lines)
  | [] => meets_pure ()
  | _ :: lines => meets_when (meets_say hC _) (meets_sayLines hC lines)

/-! ## Questions -/

section Questions

variable (hC : C.Admits (·.isOfFiles))

include hC

theorem meets_entry (p : Path) : Meets C (lookUp? p) := by
  unfold lookUp?
  refine meets_ite (meets_pure none) (meets_bind meets_get fun w => ?_)
  split
  · exact meets_pure _
  · exact meets_pure _
  · exact meets_pure _
  · exact meets_fail hC rfl

theorem meets_exists (p : Path) : Meets C (exists? p) :=
  meets_bind (meets_entry hC p) fun _ => meets_pure _

theorem meets_isFile (p : Path) : Meets C (isFile p) := by
  refine meets_bind (meets_entry hC p) fun e => ?_
  split
  · exact meets_pure _
  · exact meets_pure _

theorem meets_isFolder (p : Path) : Meets C (isFolder p) := by
  refine meets_bind (meets_entry hC p) fun e => ?_
  split
  · exact meets_pure _
  · exact meets_pure _

theorem meets_resolve (p : Path) : Meets C (resolve p) :=
  meets_when (meets_fail hC rfl) (meets_bind meets_get fun _ => meets_pure _)

theorem meets_query (p : Path) (operation : Disk → Place → Path → Except DiskError α) :
    Meets C (query p operation) := by
  refine meets_when (meets_fail hC rfl) (meets_bind meets_get fun w => ?_)
  split
  · exact meets_pure _
  · exact meets_fail hC rfl

theorem meets_readBytes (p : Path) : Meets C (readBytes p) := meets_query hC p _

theorem meets_readExact (p : Path) : Meets C (readExact p) := by
  refine meets_bind (meets_readBytes hC p) fun bytes => ?_
  exact meets_ofExcept fun _ _ => meets_fail hC rfl

theorem meets_readText (p : Path) : Meets C (readText p) :=
  meets_bind (meets_readExact hC p) fun _ => meets_pure _

theorem meets_readMarkedText (p : Path) : Meets C (readMarkedText p) := by
  refine meets_bind (meets_readBytes hC p) fun bytes => ?_
  exact meets_bind (meets_ofExcept fun _ _ => meets_fail hC rfl) fun _ => meets_pure _

theorem meets_children (p : Path) : Meets C (children p) :=
  meets_bind (meets_query hC p _) fun _ => meets_pure _

theorem meets_below (p : Path) : Meets C (below p) := by
  refine meets_bind (meets_isFolder hC p) fun there => meets_ite (meets_pure _) ?_
  refine meets_bind meets_get fun w => ?_
  split
  · dsimp only
    split
    · exact meets_fail hC rfl
    · exact meets_pure _
  · exact meets_pure _

end Questions

theorem meets_copyFile (hC : C.Admits (·.isOfFiles)) (source : Path) {target : Path}
    (hwrite : ∀ content, Meets C (write target content)) : Meets C (copyFile source target) := by
  have hcopy : Meets C (do
      let content ← readBytes source
      Work.write target content) :=
    meets_bind (meets_readBytes hC source) hwrite
  refine meets_when (meets_fail hC rfl) (meets_bind meets_get fun w => ?_)
  split
  · exact meets_when (meets_fail hC rfl) hcopy
  · exact hcopy

/-! ## Failing only by some causes -/

theorem hasNull_parent {p : Path} (h : hasNull p = false) : hasNull p.parent = false := by
  unfold hasNull at h ⊢
  rw [List.any_eq_false] at h ⊢
  exact fun n hn => h n (List.dropLast_subset _ hn)

/-- Failures of the file tree are among `E`, and that of null characters too if the path has
any. -/
structure Covers (E : Failure → Prop) (p : Path) : Prop where
  disk : ∀ e q, E (.disk e q)
  null : hasNull p = true → E .nullCharacter

theorem Covers.parent {E : Failure → Prop} {p : Path} (h : Covers E p) : Covers E p.parent where
  disk := h.disk
  null hnull := by
    refine h.null ?_
    by_contra hp
    rw [hasNull_parent ((Bool.not_eq_true _).mp hp)] at hnull
    cases hnull

section

variable {E : Failure → Prop} {p : Path} (h : Covers E p)

include h

theorem failingBy_query (operation : Disk → Place → Path → Except DiskError α) :
    Meets (.failingBy E) (query p operation) := by
  refine meets_where (fun hnull => failingBy_fail (h.null hnull)) (meets_bind meets_get fun w => ?_)
  split
  · exact meets_pure _
  · exact failingBy_fail (h.disk _ _)

theorem failingBy_change (operation : Disk → Place → Path → Except DiskError Disk) :
    Meets (.failingBy E) (change p operation) :=
  meets_bind (failingBy_query h operation) fun _ => failingBy_modify _

theorem failingBy_entry : Meets (.failingBy E) (lookUp? p) := by
  refine meets_ite (meets_pure none) (meets_bind meets_get fun w => ?_)
  split
  · exact meets_pure _
  · exact meets_pure _
  · exact meets_pure _
  · exact failingBy_fail (h.disk _ _)

theorem failingBy_exists : Meets (.failingBy E) (exists? p) :=
  meets_bind (failingBy_entry h) fun _ => meets_pure _

/-- A failure that is not accepted is passed on. -/
theorem failingBy_accept {f : Failure} (hf : E f) :
    Meets (.failingBy E) (makeFoldersFrom.accept p f) := by
  have hfolder : Meets (.failingBy E) (isFolder p) := by
    refine meets_bind (failingBy_entry h) fun entry => ?_
    split
    · exact meets_pure _
    · exact meets_pure _
  unfold makeFoldersFrom.accept
  split
  · exact meets_bind hfolder fun _ => meets_ite (meets_pure _) (failingBy_fail hf)
  · exact failingBy_fail hf

theorem failingBy_settle : Meets (.failingBy E) (makeFoldersFrom.settle p) :=
  failingBy_tryCatch (failingBy_change h _) fun _ hf => failingBy_accept h hf

end

theorem failingBy_makeFoldersFrom {E : Failure → Prop} : ∀ (fuel : Nat) {p : Path}, Covers E p →
    Meets (.failingBy E) (makeFoldersFrom fuel p)
  | 0, _, h => failingBy_settle h
  | fuel + 1, p, h => by
      refine failingBy_tryCatch (failingBy_change h _) fun f hf => ?_
      split
      · exact meets_when (failingBy_fail hf)
          (meets_bind (failingBy_makeFoldersFrom fuel h.parent) fun _ => failingBy_settle h)
      · exact failingBy_accept h hf

theorem failingBy_makeFolders {E : Failure → Prop} {p : Path} (h : Covers E p) :
    Meets (.failingBy E) (makeFolders p) := failingBy_makeFoldersFrom _ h

/-! ### Failing only by files -/

/-- It fails only with failures of files. -/
abbrev failingByFiles : Contract := .failingBy (·.isOfFiles)

theorem byFiles : Contract.Admits failingByFiles (·.isOfFiles) := failingBy_admits fun _ h => h

theorem covers_isOfFiles (p : Path) : Covers (·.isOfFiles) p := ⟨fun _ _ => rfl, fun _ => rfl⟩

theorem failing_change (p : Path) (operation : Disk → Place → Path → Except DiskError Disk) :
    Meets failingByFiles (change p operation) := failingBy_change (covers_isOfFiles p) operation

theorem failing_writeText (p : Path) (text : String) :
    Meets failingByFiles (writeText p text) := failing_change p _

theorem failing_unlink (p : Path) : Meets failingByFiles (unlink p) := failing_change p _

theorem failing_removeTree (p : Path) : Meets failingByFiles (removeTree p) := by
  refine meets_when (meets_fail byFiles rfl) (meets_bind meets_get fun w => ?_)
  split
  · exact failingBy_set _
  · exact meets_fail byFiles rfl
  · exact meets_fail byFiles rfl

theorem failing_makeFolders (p : Path) : Meets failingByFiles (makeFolders p) :=
  failingBy_makeFolders (covers_isOfFiles p)

/-! ### Failing only by the file tree -/

/-- It fails only with failures of the file tree, as work on paths without null characters does. -/
abbrev failingByDisk : Contract := .failingBy (·.isDisk)

theorem covers_isDisk {p : Path} (hp : hasNull p = false) : Covers (·.isDisk) p :=
  ⟨fun _ _ => rfl, fun hnull => by simp [hp] at hnull⟩

theorem byDisk_copyFile {source target : Path} (hs : hasNull source = false)
    (ht : hasNull target = false) : Meets failingByDisk (copyFile source target) := by
  have hcopy : Meets failingByDisk (do
      let content ← readBytes source
      Work.write target content) :=
    meets_bind (failingBy_query (covers_isDisk hs) _) fun _ =>
      failingBy_change (covers_isDisk ht) _
  unfold copyFile
  rw [hs, ht]
  refine meets_bind meets_get fun w => ?_
  split
  · exact meets_when (failingBy_fail rfl) hcopy
  · exact hcopy

end Work

end PatchForge
