import PatchForge.Proofs.Basic
import PatchForge.Workshop

/-!
# Runs of pieces of work

What the steps of a piece of work do when they are run, and how to speak
of all its runs at once.

A *contract* says which runs are allowed, given the workshop before, the
failure if there was one, and the workshop after. Doing nothing is
allowed, and an allowed run may go on with another one, so a contract met
by the parts of a piece of work is met by the whole: it passes through
sequences, through lists and through caught failures. Two kinds are used
throughout:

- `Contract.moving R`: the workshop moves along `R`, however the work
  ends. With `Contract.keeping π`, the part `π` stays: this is how work
  is said to leave the file tree, the processes or the grants alone.
- `Contract.failingBy E`: a failure is one that `E` allows.
-/

namespace PatchForge

namespace Work

variable {α β γ : Type}

/-! ## Single steps -/

@[simp] theorem run_pure (a : α) (w : Workshop) : (pure a : Work α).run w = (.ok a, w) := rfl

@[simp] theorem run_fail (f : Failure) (w : Workshop) :
    (fail f : Work α).run w = (.error f, w) := rfl

@[simp] theorem run_get (w : Workshop) : (get : Work Workshop).run w = (.ok w, w) := rfl

theorem run_bind (x : Work α) (k : α → Work β) (w : Workshop) :
    (x >>= k).run w = match x.run w with
      | (.ok a, w₁) => (k a).run w₁
      | (.error f, w₁) => (.error f, w₁) := by
  show (ExceptT.bind x k) w = _
  simp only [ExceptT.bind, ExceptT.mk, bind, StateT.bind, ExceptT.bindCont, Work.run]
  cases x w with
  | mk result w₁ => cases result <;> rfl

theorem run_tryCatch (x : Work α) (handle : Failure → Work α) (w : Workshop) :
    (tryCatch x handle).run w = match x.run w with
      | (.ok a, w₁) => (.ok a, w₁)
      | (.error f, w₁) => (handle f).run w₁ := by
  show (ExceptT.tryCatch x handle) w = _
  simp only [ExceptT.tryCatch, ExceptT.mk, bind, StateT.bind, Work.run]
  cases x w with
  | mk result w₁ => cases result <;> rfl

/-! ## Runs that end well, and runs that fail -/

/-- A sequence ends well exactly if its first part does and the second does from there. -/
theorem bind_ok {x : Work α} {k : α → Work β} {w w' : Workshop} {b : β} :
    (x >>= k).run w = (.ok b, w') ↔
      ∃ a w₁, x.run w = (.ok a, w₁) ∧ (k a).run w₁ = (.ok b, w') := by
  rw [run_bind]
  constructor
  · intro h
    cases hx : x.run w with
    | mk result w₁ =>
        rw [hx] at h
        cases result with
        | ok a => exact ⟨a, w₁, rfl, h⟩
        | error f => cases h
  · rintro ⟨a, w₁, hx, hk⟩
    rw [hx]
    exact hk

/-- The same where it does not matter what is left behind. -/
theorem exists_bind_ok {x : Work α} {k : α → Work β} {w : Workshop} {b : β} :
    (∃ w', (x >>= k).run w = (.ok b, w')) ↔
      ∃ a w₁, x.run w = (.ok a, w₁) ∧ ∃ w', (k a).run w₁ = (.ok b, w') := by
  simp only [bind_ok]
  constructor
  · rintro ⟨w', a, w₁, hx, hk⟩
    exact ⟨a, w₁, hx, w', hk⟩
  · rintro ⟨a, w₁, hx, w', hk⟩
    exact ⟨w', a, w₁, hx, hk⟩

/-- A sequence fails in its first part or in its second. -/
theorem bind_error {x : Work α} {k : α → Work β} {w w' : Workshop} {f : Failure} :
    (x >>= k).run w = (.error f, w') ↔ x.run w = (.error f, w')
      ∨ ∃ a w₁, x.run w = (.ok a, w₁) ∧ (k a).run w₁ = (.error f, w') := by
  rw [run_bind]
  cases x.run w with
  | mk result w₁ =>
      cases result with
      | ok a => simp
      | error f' => simp

theorem map_ok {g : α → β} {x : Work α} {w w' : Workshop} {b : β} :
    (g <$> x).run w = (.ok b, w') ↔ ∃ a, x.run w = (.ok a, w') ∧ g a = b := by
  rw [map_eq_pure_bind, bind_ok]
  constructor
  · rintro ⟨a, w₁, hx, hk⟩
    cases hk
    exact ⟨a, hx, rfl⟩
  · rintro ⟨a, hx, rfl⟩
    exact ⟨a, w', hx, rfl⟩

theorem ofExcept_ok {ε : Type} {toFailure : ε → Failure} {r : Except ε α} {w w' : Workshop}
    {a : α} : (ofExcept toFailure r).run w = (.ok a, w') ↔ r = .ok a ∧ w' = w := by
  cases r with
  | ok b =>
      simp only [ofExcept, run_pure, Prod.mk.injEq, Except.ok.injEq]
      exact and_congr_right fun _ => eq_comm
  | error e => simp [ofExcept]

/-- A run whose result is known. -/
theorem run_of_result {x : Work α} {w : Workshop} {a : α}
    (h : (x.run w).1.toOption = some a) : x.run w = (.ok a, (x.run w).2) :=
  Prod.ext (Result.toOption_some.mp h) rfl

/-! ## Contracts -/

/-- Which runs are allowed: from a workshop, with a failure or none, to a workshop. -/
structure Contract where
  allows : Workshop → Option Failure → Workshop → Prop
  idle : ∀ w, allows w none w
  next : ∀ {w₁ w₂ w₃ : Workshop} {f : Option Failure},
    allows w₁ none w₂ → allows w₂ f w₃ → allows w₁ f w₃

/-- The failure that a run ended with. -/
def failure? : Except Failure α → Option Failure
  | .ok _ => none
  | .error f => some f

/-- Every run of the work is allowed. -/
def Meets (C : Contract) (x : Work α) : Prop :=
  ∀ w, C.allows w (failure? (x.run w).1) (x.run w).2

/-- The workshop moves along `R`. -/
def Contract.moving (R : Workshop → Workshop → Prop) (refl : ∀ w, R w w)
    (trans : ∀ {w₁ w₂ w₃}, R w₁ w₂ → R w₂ w₃ → R w₁ w₃) : Contract where
  allows w _ w' := R w w'
  idle := refl
  next := trans

/-- The part `π` of the workshop stays. -/
abbrev Contract.keeping (π : Workshop → γ) : Contract :=
  .moving (fun w w' => π w' = π w) (fun _ => rfl) fun h h' => h'.trans h

/-- A failure is one that `E` allows. -/
def Contract.failingBy (E : Failure → Prop) : Contract where
  allows _ f _ := ∀ e ∈ f, E e
  idle _ := by simp
  next _ h := h

variable {C : Contract}

theorem Meets.ok {x : Work α} (hx : Meets C x) {w w' : Workshop} {a : α}
    (h : x.run w = (.ok a, w')) : C.allows w none w' := by
  have hw := hx w
  rw [h] at hw
  exact hw

theorem Meets.error {x : Work α} (hx : Meets C x) {w w' : Workshop} {f : Failure}
    (h : x.run w = (.error f, w')) : C.allows w (some f) w' := by
  have hw := hx w
  rw [h] at hw
  exact hw

/-- Work that changes nothing ends where it started. -/
theorem run_of_keeping {x : Work α} (hx : Meets (.keeping fun w => w) x) (w : Workshop) :
    x.run w = ((x.run w).1, w) := Prod.ext rfl (hx w)

theorem unchanged_of_keeping {x : Work α} (hx : Meets (.keeping fun w => w) x) {a : α}
    {w w' : Workshop}
    (h : x.run w = (.ok a, w')) : w' = w := hx.ok h

theorem meets_pure (a : α) : Meets C (pure a : Work α) := fun w => C.idle w

theorem meets_get : Meets C (get : Work Workshop) := fun w => C.idle w

theorem meets_bind {x : Work α} {k : α → Work β} (hx : Meets C x) (hk : ∀ a, Meets C (k a)) :
    Meets C (x >>= k) := by
  intro w
  have h := hx w
  rw [run_bind]
  cases hr : x.run w with
  | mk result w₁ =>
      rw [hr] at h
      cases result with
      | ok a => exact C.next h (hk a w₁)
      | error f => exact h

theorem meets_map {x : Work α} (g : α → β) (hx : Meets C x) : Meets C (g <$> x) := by
  rw [map_eq_pure_bind]
  exact meets_bind hx fun a => meets_pure (g a)

theorem meets_ofExcept {ε : Type} {toFailure : ε → Failure} {r : Except ε α}
    (h : ∀ e, r = .error e → Meets C (fail (toFailure e) : Work α)) :
    Meets C (ofExcept toFailure r) := by
  cases r with
  | ok a => exact meets_pure a
  | error e => exact h e rfl

theorem meets_ite {c : Prop} [Decidable c] {x y : Work α} (hx : Meets C x) (hy : Meets C y) :
    Meets C (if c then x else y) := by
  split
  · exact hx
  · exact hy

theorem meets_mapM {g : α → Work β} : ∀ {l : List α}, (∀ a ∈ l, Meets C (g a)) →
    Meets C (l.mapM g)
  | [], _ => meets_pure []
  | a :: l, h => by
      obtain ⟨ha, hl⟩ := List.forall_mem_cons.mp h
      rw [List.mapM_cons]
      exact meets_bind ha fun b => meets_bind (meets_mapM hl) fun bs => meets_pure (b :: bs)

theorem meets_foldlM {g : β → α → Work β} : ∀ {l : List α} (b : β),
    (∀ a ∈ l, ∀ b, Meets C (g b a)) → Meets C (l.foldlM g b)
  | [], b, _ => meets_pure b
  | a :: l, b, h => by
      obtain ⟨ha, hl⟩ := List.forall_mem_cons.mp h
      rw [List.foldlM_cons]
      exact meets_bind (ha b) fun b' => meets_foldlM b' hl

theorem meets_forM {g : α → Work PUnit} : ∀ {l : List α}, (∀ a ∈ l, Meets C (g a)) →
    Meets C (l.forM g)
  | [], _ => meets_pure PUnit.unit
  | a :: l, h => by
      obtain ⟨ha, hl⟩ := List.forall_mem_cons.mp h
      exact meets_bind ha fun _ => meets_forM hl

theorem meets_filterM {g : α → Work Bool} (h : ∀ a, Meets C (g a)) (l : List α) :
    Meets C (l.filterM g) := by
  have key : ∀ (l kept : List α), Meets C (List.filterAuxM g l kept) := by
    intro l
    induction l with
    | nil => exact fun kept => meets_pure kept
    | cons a l ih =>
        intro kept
        rw [List.filterAuxM]
        exact meets_bind (h a) fun b => ih _
  exact meets_bind (key l []) fun kept => meets_pure kept.reverse

/-! ### Moving the workshop -/

section Moving

variable {R : Workshop → Workshop → Prop} {refl : ∀ w, R w w}
  {trans : ∀ {w₁ w₂ w₃}, R w₁ w₂ → R w₂ w₃ → R w₁ w₃}

theorem moving_fail (f : Failure) : Meets (.moving R refl trans) (fail f : Work α) := refl

/-- What was done before a failure was caught counts as done. -/
theorem moving_tryCatch {x : Work α} {handle : Failure → Work α}
    (hx : Meets (.moving R refl trans) x)
    (hh : ∀ f, Meets (.moving R refl trans) (handle f)) :
    Meets (.moving R refl trans) (tryCatch x handle) := by
  intro w
  have h := hx w
  rw [run_tryCatch]
  cases hr : x.run w with
  | mk result w₁ =>
      rw [hr] at h
      cases result with
      | ok a => exact h
      | error f => exact trans h (hh f w₁)

theorem keeping_tryCatch {π : Workshop → γ} {x : Work α} {handle : Failure → Work α}
    (hx : Meets (.keeping π) x) (hh : ∀ f, Meets (.keeping π) (handle f)) :
    Meets (.keeping π) (tryCatch x handle) :=
  @moving_tryCatch α _ _ (fun h h' => h'.trans h) x handle hx hh

end Moving

/-! ### Failing only by some causes -/

theorem failingBy_fail {E : Failure → Prop} {f : Failure} (h : E f) :
    Meets (.failingBy E) (fail f : Work α) := by
  rintro w _ ⟨⟩
  exact h

theorem failingBy_modify {E : Failure → Prop} (g : Workshop → Workshop) :
    Meets (.failingBy E) (modify g : Work PUnit) := by
  rintro w _ ⟨⟩

theorem failingBy_set {E : Failure → Prop} (w' : Workshop) :
    Meets (.failingBy E) (set w' : Work PUnit) := by
  rintro w _ ⟨⟩

/-- A caught failure counts only through what is done about it. -/
theorem failingBy_tryCatch {E E' : Failure → Prop} {x : Work α} {handle : Failure → Work α}
    (hx : Meets (.failingBy E') x) (hh : ∀ f, E' f → Meets (.failingBy E) (handle f)) :
    Meets (.failingBy E) (tryCatch x handle) := by
  intro w
  have h := hx w
  rw [run_tryCatch]
  cases hr : x.run w with
  | mk result w₁ =>
      rw [hr] at h
      cases result with
      | ok a => exact (Contract.failingBy E).idle w
      | error f => exact hh f (h f rfl) w₁

end Work

end PatchForge
