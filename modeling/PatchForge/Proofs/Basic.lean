import Mathlib.Data.List.Forall2
import Mathlib.Data.List.Nodup

/-!
# Results and lists

A computation that may fail gives a value exactly if each of its steps
does: these are the inversions that statements about rendering and
capabilities start from. And many lists here take an element in only if
they lack it (`addNew`), so that after any number of elements they
repeat nothing (`nodup_foldl_addNew`).
-/

namespace PatchForge

/-- An element is taken in at the end, unless the list has it. -/
abbrev addNew {α : Type} [BEq α] (l : List α) (x : α) : List α :=
  if l.contains x then l else l ++ [x]

theorem mem_addNew {α : Type} [BEq α] [LawfulBEq α] {l : List α} {x y : α} :
    y ∈ addNew l x ↔ y ∈ l ∨ y = x := by
  unfold addNew
  split
  · rename_i hthere
    rw [List.contains_iff_mem] at hthere
    constructor
    · exact Or.inl
    · rintro (h | rfl)
      · exact h
      · exact hthere
  · rw [List.mem_append, List.mem_singleton]

section

variable {α : Type} [BEq α] [LawfulBEq α]

theorem mem_foldl_addNew {y : α} : ∀ {new l : List α},
    y ∈ new.foldl addNew l ↔ y ∈ l ∨ y ∈ new
  | [], l => by simp
  | x :: new, l => by rw [List.foldl_cons, mem_foldl_addNew, mem_addNew, List.mem_cons, or_assoc]

theorem nodup_addNew {l : List α} {x : α} (h : l.Nodup) : (addNew l x).Nodup := by
  unfold addNew
  split
  · exact h
  · rename_i hnew
    rw [List.contains_iff_mem] at hnew
    rw [← List.concat_eq_append]
    exact h.concat hnew

theorem nodup_foldl_addNew : ∀ {new l : List α}, l.Nodup → (new.foldl addNew l).Nodup
  | [], _, h => h
  | x :: new, l, h => by
      rw [List.foldl_cons]
      exact nodup_foldl_addNew (nodup_addNew h)

/-- What is taken in comes in the order of its first appearance. -/
theorem foldl_addNew : ∀ {new l : List α},
    new.foldl addNew l = l ++ (new.removeAll l).eraseDups
  | [], l => by simp
  | x :: new, l => by
      rw [List.foldl_cons, foldl_addNew, List.cons_removeAll, addNew]
      cases hthere : l.contains x with
      | true => simp
      | false =>
          simp only [Bool.false_eq_true, if_false, if_true, List.eraseDups_cons]
          have hrest : new.removeAll (l ++ [x]) = (new.removeAll l).filter fun y => !y == x := by
            simp only [List.removeAll, List.filter_filter, List.elem_eq_contains]
            refine List.filter_congr fun y _ => ?_
            rw [Bool.eq_iff_iff]
            simp [or_comm]
          rw [hrest, List.append_assoc, List.singleton_append]

theorem foldl_addNew_nil {new : List α} : new.foldl addNew [] = new.eraseDups := by
  rw [foldl_addNew, List.nil_append, List.removeAll_nil]

theorem eraseDups_of_nodup {l : List α} (h : l.Nodup) : l.eraseDups = l := by
  induction l with
  | nil => rfl
  | cons x l ih =>
      obtain ⟨hx, hl⟩ := List.nodup_cons.mp h
      have hothers : (l.filter fun y => !y == x) = l := by
        refine List.filter_eq_self.mpr fun y hy => ?_
        have hne : y ≠ x := by
          rintro rfl
          exact hx hy
        simp [hne]
      rw [List.eraseDups_cons, hothers, ih hl]

end

end PatchForge

namespace PatchForge.Result

variable {α β ε ε' : Type}

theorem bind_ok {x : Except ε α} {k : α → Except ε β} {b : β} :
    x >>= k = .ok b ↔ ∃ a, x = .ok a ∧ k a = .ok b := by
  cases x with
  | ok a => simp [bind, Except.bind]
  | error e => simp [bind, Except.bind]

theorem bind_error {x : Except ε α} {k : α → Except ε β} {e : ε} :
    x >>= k = .error e ↔ x = .error e ∨ ∃ a, x = .ok a ∧ k a = .error e := by
  cases x with
  | ok a => simp [bind, Except.bind]
  | error e' => simp [bind, Except.bind]

theorem map_ok {x : Except ε α} {g : α → β} {b : β} :
    x.map g = .ok b ↔ ∃ a, x = .ok a ∧ g a = b := by
  cases x with
  | ok a => simp [Except.map]
  | error e => simp [Except.map]

theorem map_error {x : Except ε α} {g : α → β} {e : ε} :
    x.map g = .error e ↔ x = .error e := by
  cases x with
  | ok a => simp [Except.map]
  | error e' => simp [Except.map]

theorem mapError_ok {x : Except ε α} {g : ε → ε'} {a : α} :
    x.mapError g = .ok a ↔ x = .ok a := by
  cases x with
  | ok b => simp [Except.mapError]
  | error e => simp [Except.mapError]

theorem mapError_error {x : Except ε α} {g : ε → ε'} {e' : ε'} :
    x.mapError g = .error e' ↔ ∃ e, x = .error e ∧ g e = e' := by
  cases x with
  | ok b => simp [Except.mapError]
  | error e => simp [Except.mapError]

theorem toOption_some {x : Except ε α} {a : α} : x.toOption = some a ↔ x = .ok a := by
  cases x with
  | ok b => simp [Except.toOption]
  | error e => simp [Except.toOption]

/-- A list of computations gives values exactly if each of them gives its value. -/
theorem mapM_ok {f : α → Except ε β} : ∀ {l : List α} {bs : List β},
    l.mapM f = .ok bs ↔ List.Forall₂ (fun a b => f a = .ok b) l bs
  | [], bs => by
      rw [List.mapM_nil, List.forall₂_nil_left_iff]
      exact ⟨fun h => (Except.ok.inj h).symm, fun h => h ▸ rfl⟩
  | a :: l, bs => by
      rw [List.mapM_cons, bind_ok, List.forall₂_cons_left_iff]
      constructor
      · rintro ⟨b, hb, h⟩
        obtain ⟨rest, hrest, hbs⟩ := bind_ok.mp h
        exact ⟨b, rest, hb, mapM_ok.mp hrest, (Except.ok.inj hbs).symm⟩
      · rintro ⟨b, rest, hb, hrest, rfl⟩
        exact ⟨b, hb, bind_ok.mpr ⟨rest, mapM_ok.mpr hrest, rfl⟩⟩

/-- A list of computations fails as the first of them that does. -/
theorem mapM_error {f : α → Except ε β} {e : ε} : ∀ {l : List α}, l.mapM f = .error e →
    ∃ before a after, l = before ++ a :: after ∧ (∀ x ∈ before, ∃ b, f x = .ok b)
      ∧ f a = .error e
  | [], h => by
      cases h
  | a :: l, h => by
      rw [List.mapM_cons] at h
      cases ha : f a with
      | error e' =>
          rw [ha] at h
          cases h
          exact ⟨[], a, l, rfl, by simp, ha⟩
      | ok b =>
          rw [ha] at h
          cases hl : l.mapM f with
          | ok bs =>
              simp [hl, bind, Except.bind, pure, Except.pure] at h
          | error e' =>
              simp only [hl, bind, Except.bind, Except.error.injEq] at h
              subst h
              obtain ⟨before, x, after, rfl, hbefore, hx⟩ := mapM_error hl
              refine ⟨a :: before, x, after, rfl, ?_, hx⟩
              exact List.forall_mem_cons.mpr ⟨⟨b, ha⟩, hbefore⟩

theorem mapM_of_error {f : α → Except ε β} {e : ε} {a : α} (ha : f a = .error e) (after : List α) :
    ∀ {before : List α}, (∀ x ∈ before, ∃ b, f x = .ok b) → (before ++ a :: after).mapM f = .error e
  | [], _ => by
      rw [List.nil_append, List.mapM_cons, ha]
      rfl
  | x :: before, h => by
      obtain ⟨⟨b, hx⟩, hbefore⟩ := List.forall_mem_cons.mp h
      rw [List.cons_append, List.mapM_cons, hx]
      exact bind_error.mpr (Or.inr ⟨b, rfl, bind_error.mpr (Or.inl (mapM_of_error ha after hbefore))⟩)

theorem exists_mapM_ok {f : α → Except ε β} : ∀ {l : List α},
    (∃ bs, l.mapM f = .ok bs) ↔ ∀ a ∈ l, ∃ b, f a = .ok b
  | [] => by
      rw [List.mapM_nil]
      simp [pure, Except.pure]
  | a :: l => by
      simp only [List.forall_mem_cons, ← exists_mapM_ok, mapM_ok, List.forall₂_cons_left_iff]
      constructor
      · rintro ⟨_, b, bs, hb, hbs, rfl⟩
        exact ⟨⟨b, hb⟩, bs, hbs⟩
      · rintro ⟨⟨b, hb⟩, bs, hbs⟩
        exact ⟨b :: bs, b, bs, hb, hbs, rfl⟩

end PatchForge.Result
