import PatchForge.Discovery
import PatchForge.Proofs.Work.Effects

/-!
# What was said is not heard

Work can be told to say what it does, or to be quiet. Either way it
answers the same and leaves the same workshop, but for what was said
there. That takes two runs to say: two pieces of work are `Alike` if from
workshops that differ only in what was said they give one result and reach
workshops that differ only in that again.

Sequences, lists and caught failures of work that is alike are alike, and
anything said is alike to silence (`alike_sayIf`). So modules are found
the same way, aloud or quietly (`alike_discover`), and folders are made
the same way whatever was said before (`alike_makeFolders`).
-/

namespace PatchForge

namespace Work

variable {α β : Type}

/-- From workshops that differ in what was said, both give one result and reach such workshops. -/
def Alike (x y : Work α) : Prop :=
  ∀ w w', w.silent = w'.silent →
    (x.run w).1 = (y.run w').1 ∧ (x.run w).2.silent = (y.run w').2.silent

theorem Alike.ok {x y : Work α} (h : Alike x y) {w w' w₁ : Workshop} {a : α}
    (hx : x.run w = (.ok a, w₁)) (hw : w.silent = w'.silent) :
    ∃ w₁', y.run w' = (.ok a, w₁') ∧ w₁.silent = w₁'.silent := by
  obtain ⟨hresult, hafter⟩ := h w w' hw
  rw [hx] at hresult hafter
  exact ⟨(y.run w').2, Prod.ext hresult.symm rfl, hafter⟩

/-! ## Steps -/

theorem alike_pure (a : α) : Alike (pure a) (pure a) := fun _ _ h => ⟨rfl, h⟩

theorem alike_fail (f : Failure) : Alike (fail f : Work α) (fail f) := fun _ _ h => ⟨rfl, h⟩

theorem alike_bind {x y : Work α} {k l : α → Work β} (hx : Alike x y)
    (hk : ∀ a, Alike (k a) (l a)) : Alike (x >>= k) (y >>= l) := by
  intro w w' hw
  obtain ⟨hresult, hafter⟩ := hx w w' hw
  rw [run_bind, run_bind]
  cases hr : x.run w with
  | mk result w₁ =>
      cases hr' : y.run w' with
      | mk result' w₁' =>
          rw [hr, hr'] at hresult hafter
          obtain rfl : result = result' := hresult
          cases result with
          | ok a => exact hk a w₁ w₁' hafter
          | error f => exact ⟨rfl, hafter⟩

theorem alike_tryCatch {x y : Work α} {handle handle' : Failure → Work α} (hx : Alike x y)
    (hh : ∀ f, Alike (handle f) (handle' f)) :
    Alike (tryCatch x handle) (tryCatch y handle') := by
  intro w w' hw
  obtain ⟨hresult, hafter⟩ := hx w w' hw
  rw [run_tryCatch, run_tryCatch]
  cases hr : x.run w with
  | mk result w₁ =>
      cases hr' : y.run w' with
      | mk result' w₁' =>
          rw [hr, hr'] at hresult hafter
          obtain rfl : result = result' := hresult
          cases result with
          | ok a => exact ⟨rfl, hafter⟩
          | error f => exact hh f w₁ w₁' hafter

theorem alike_ite {c : Prop} [Decidable c] {x y x' y' : Work α} (hx : Alike x y)
    (hx' : Alike x' y') : Alike (if c then x else x') (if c then y else y') := by
  split
  · exact hx
  · exact hx'

/-- Something done on a condition, before the rest of the work. -/
theorem alike_when {c : Prop} [Decidable c] {x y : Work PUnit} {rest rest' : Work α}
    (hx : Alike x y) (hrest : Alike rest rest') :
    Alike (do
      if c then x
      rest) (do
      if c then y
      rest') :=
  alike_ite (alike_bind hx fun _ => hrest) hrest

theorem alike_foldlM {g g' : β → α → Work β} (h : ∀ b a, Alike (g b a) (g' b a)) :
    ∀ (l : List α) (b : β), Alike (l.foldlM g b) (l.foldlM g' b)
  | [], b => alike_pure b
  | a :: l, b => by
      rw [List.foldlM_cons, List.foldlM_cons]
      exact alike_bind (h b a) fun b' => alike_foldlM h l b'

theorem alike_ofExcept {ε : Type} (toFailure : ε → Failure) (r : Except ε α) :
    Alike (ofExcept toFailure r) (ofExcept toFailure r) := by
  cases r with
  | ok a => exact alike_pure a
  | error e => exact alike_fail _

theorem alike_sayIf (b b' : Bool) (n n' : Notice) : Alike (sayIf b n) (sayIf b' n') := by
  intro w w' hw
  cases b <;> cases b' <;> exact ⟨rfl, hw⟩

/-! ## Questions -/

/-- The file tree and the folder the tool runs in are seen, what was said is not. -/
theorem alike_get {k : Workshop → Work α}
    (h : ∀ w w', w.disk = w'.disk → w.here = w'.here → Alike (k w) (k w')) :
    Alike (get >>= k) (get >>= k) := by
  intro w w' hw
  have hdisk := congrArg Workshop.disk hw
  have hhere := congrArg Workshop.here hw
  rw [run_bind, run_bind, run_get, run_get]
  exact h w w' hdisk hhere w w' hw

theorem alike_entry (p : Path) : Alike (lookUp? p) (lookUp? p) := by
  refine alike_ite (alike_pure none) (alike_get fun w w' hdisk hhere => ?_)
  rw [hdisk, hhere]
  split
  · exact alike_pure _
  · exact alike_pure _
  · exact alike_pure _
  · exact alike_fail _

theorem alike_isFile (p : Path) : Alike (isFile p) (isFile p) := by
  refine alike_bind (alike_entry p) fun e => ?_
  split
  · exact alike_pure _
  · exact alike_pure _

theorem alike_isFolder (p : Path) : Alike (isFolder p) (isFolder p) := by
  refine alike_bind (alike_entry p) fun e => ?_
  split
  · exact alike_pure _
  · exact alike_pure _

theorem alike_resolve (p : Path) : Alike (resolve p) (resolve p) := by
  refine alike_when (alike_fail _) (alike_get fun w w' _ hhere => ?_)
  rw [hhere]
  exact alike_pure _

theorem alike_query (p : Path) (operation : Disk → Place → Path → Except DiskError α) :
    Alike (query p operation) (query p operation) := by
  refine alike_when (alike_fail _) (alike_get fun w w' hdisk hhere => ?_)
  rw [hdisk, hhere]
  split
  · exact alike_pure _
  · exact alike_fail _

theorem alike_readText (p : Path) : Alike (readText p) (readText p) := by
  have hexact : Alike (readExact p) (readExact p) :=
    alike_bind (alike_query p _) fun bytes => alike_ofExcept _ _
  exact alike_bind hexact fun _ => alike_pure _

theorem alike_readMarkedText (p : Path) : Alike (readMarkedText p) (readMarkedText p) :=
  alike_bind (alike_query p _) fun _ =>
    alike_bind (alike_ofExcept _ _) fun _ => alike_pure _

theorem alike_children (p : Path) : Alike (children p) (children p) :=
  alike_bind (alike_query p _) fun _ => alike_pure _

/-! ## Making folders -/

theorem alike_change (p : Path) (operation : Disk → Place → Path → Except DiskError Disk) :
    Alike (change p operation) (change p operation) := by
  refine alike_bind (alike_query p operation) fun disk w w' hw => ⟨rfl, ?_⟩
  exact congrArg (fun v : Workshop => { v with disk }) hw

theorem alike_accept (p : Path) (f : Failure) :
    Alike (makeFoldersFrom.accept p f) (makeFoldersFrom.accept p f) := by
  unfold makeFoldersFrom.accept
  split
  · exact alike_bind (alike_isFolder p) fun _ => alike_ite (alike_pure _) (alike_fail _)
  · exact alike_fail _

theorem alike_settle (p : Path) :
    Alike (makeFoldersFrom.settle p) (makeFoldersFrom.settle p) :=
  alike_tryCatch (alike_change p _) fun f => alike_accept p f

theorem alike_makeFoldersFrom : ∀ (fuel : Nat) (p : Path),
    Alike (makeFoldersFrom fuel p) (makeFoldersFrom fuel p)
  | 0, p => alike_settle p
  | fuel + 1, p => by
      refine alike_tryCatch (alike_change p _) fun f => ?_
      split
      · exact alike_when (alike_fail _)
          (alike_bind (alike_makeFoldersFrom fuel p.parent) fun _ => alike_settle p)
      · exact alike_accept p f

theorem alike_makeFolders (p : Path) : Alike (makeFolders p) (makeFolders p) :=
  alike_makeFoldersFrom _ p

end Work

open Work

/-! ## Finding modules -/

theorem alike_parseDeclaration (path : Path) (text : String) :
    Alike (parseDeclaration path text) (parseDeclaration path text) := by
  unfold parseDeclaration
  split
  · exact alike_pure _
  · split
    · exact alike_fail _
    · exact alike_fail _
    · exact alike_fail _

theorem alike_declaredModule (path folder : Path) (v : Json) :
    Alike (declaredModule path folder v) (declaredModule path folder v) := by
  unfold declaredModule
  split
  · split
    · exact alike_pure _
    · exact alike_fail _
    · exact alike_fail _
  · exact alike_fail _

theorem alike_loadModule (folder : Path) : Alike (loadModule folder) (loadModule folder) := by
  refine alike_bind (alike_resolve folder) fun folder => ?_
  refine alike_bind (alike_isFile _) fun there => alike_when (alike_fail _) ?_
  refine alike_bind (alike_readMarkedText _) fun text => ?_
  exact alike_bind (alike_parseDeclaration _ text) fun v => alike_declaredModule _ folder v

namespace Discovery

variable {verbose verbose' : Bool}

theorem alike_ignoredNames (folder : Path) :
    Alike (ignoredNames folder) (ignoredNames folder) := by
  refine alike_bind (alike_isFile _) fun there => ?_
  exact alike_ite (alike_bind (alike_readText _) fun _ => alike_pure _) (alike_pure _)

theorem alike_keep {property : Path → Work Bool} (h : ∀ p, Alike (property p) (property p)) :
    ∀ paths : List Path, Alike (keep property paths) (keep property paths)
  | [] => alike_pure []
  | p :: paths => alike_bind (h p) fun _ =>
      alike_bind (alike_keep h paths) fun _ => alike_pure _

theorem alike_linkFiles (folder : Path) : Alike (linkFiles folder) (linkFiles folder) := by
  refine alike_bind (alike_children folder) fun paths => ?_
  exact alike_keep (fun p => alike_bind (alike_isFile p) fun _ => alike_pure _) paths

theorem alike_warn (d : Discovery) (text : String) :
    Alike (d.warn verbose text) (d.warn verbose' text) :=
  alike_bind (alike_sayIf _ _ _ _) fun _ => alike_pure _

theorem alike_visit (ignored : List String) (d : Discovery) (folder : Path) :
    Alike (visit ignored verbose d folder) (visit ignored verbose' d folder) := by
  refine alike_bind (alike_resolve folder) fun folder => ?_
  refine alike_ite (alike_pure d) (alike_ite ?_ ?_)
  · exact alike_bind (alike_sayIf _ _ _ _) fun _ => alike_pure _
  · refine alike_bind (alike_isFolder folder) fun there => alike_ite ?_ ?_
    · exact alike_warn d _
    · refine alike_bind (alike_sayIf _ _ _ _) fun _ => ?_
      exact alike_bind (alike_loadModule folder) fun _ => alike_pure _

theorem alike_readable {α : Type} {x : Work α} (h : Alike x x) :
    Alike (readable x) (readable x) := by
  refine alike_bind (alike_tryCatch (alike_bind h fun _ => alike_pure _) fun f => ?_) fun e => ?_
  · split
    · exact alike_pure _
    · exact alike_ite (alike_pure _) (alike_bind (alike_fail _) fun _ => alike_pure _)
  · cases e with
    | ok a => exact alike_pure _
    | error r => exact alike_pure _

theorem alike_visitLinks (folder : Path) (ignored : List String) (d : Discovery) (file : Path) :
    Alike (visitLinks folder ignored verbose d file)
      (visitLinks folder ignored verbose' d file) := by
  have htargets : Alike (linkTargets file folder) (linkTargets file folder) :=
    alike_bind (alike_readText file) fun _ => alike_pure _
  refine alike_bind (alike_readable htargets) fun targets => ?_
  cases targets with
  | ok folders => exact alike_foldlM (alike_visit ignored) folders d
  | error text => exact alike_warn d _

end Discovery

/-- Modules are found the same way, whether or not it is said. -/
theorem alike_discover (folder : Path) (verbose verbose' : Bool) :
    Alike (discover folder verbose) (discover folder verbose') := by
  refine alike_bind (alike_resolve folder) fun folder => ?_
  refine alike_bind (Discovery.alike_ignoredNames folder) fun ignored => ?_
  refine alike_bind (alike_children folder) fun children => ?_
  refine alike_bind (Discovery.alike_keep alike_isFolder children) fun folders => ?_
  refine alike_bind (alike_foldlM (Discovery.alike_visit ignored) folders _) fun d => ?_
  refine alike_bind (Discovery.alike_linkFiles folder) fun links => ?_
  exact alike_foldlM (Discovery.alike_visitLinks folder ignored) links d

end PatchForge
