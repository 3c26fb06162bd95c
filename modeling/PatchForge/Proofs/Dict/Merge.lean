import PatchForge.Dict
import PatchForge.Proofs.Basic

/-!
# Looking up and merging

A dictionary without repeated keys is the relation of its entries, so the
order of the entries does not matter to what is found (`get?_perm`).

Merging is seen through two views of the result, its keys and what is
found under them (`gathers_merge`): a key stands where it first came,
and the last value written to it is the one that stays. Both are said of
one list of entries, so that merging one dictionary after another is
nothing else than merging their entries.
-/

namespace PatchForge.Dict

variable {α β : Type} [BEq α] [LawfulBEq α] {d : Dict α β} {key : α} {value : β}

/-! ## Looking up -/

theorem mem_of_get? : ∀ {d : Dict α β}, d.get? key = some value → (key, value) ∈ d
  | [], h => by cases h
  | (k, v) :: d, h => by
      rw [get?_cons] at h
      split at h
      · rename_i hk
        obtain rfl := eq_of_beq hk
        cases h
        exact List.mem_cons_self ..
      · exact List.mem_cons_of_mem _ (mem_of_get? h)

theorem get?_eq_some_iff : ∀ {d : Dict α β}, d.keys.Nodup →
    (d.get? key = some value ↔ (key, value) ∈ d)
  | [], _ => by simp
  | (k, v) :: d, h => by
      obtain ⟨hk, hd⟩ := List.nodup_cons.mp h
      refine ⟨mem_of_get?, fun hmem => ?_⟩
      rw [get?_cons]
      rcases List.mem_cons.mp hmem with heq | hlater
      · cases heq
        rw [if_pos (beq_self_eq_true key)]
      · have hne : key ≠ k := by
          rintro rfl
          exact hk (List.mem_map.mpr ⟨_, hlater, rfl⟩)
        rw [if_neg (by simpa using hne)]
        exact (get?_eq_some_iff hd).mpr hlater

theorem get?_eq_none_iff {d : Dict α β} : d.get? key = none ↔ key ∉ d.keys := by
  induction d with
  | nil => simp [keys]
  | cons e d ih =>
      rw [get?_cons]
      by_cases hk : key = e.1
      · simp [hk, keys]
      · rw [if_neg (by simpa using hk), ih]
        simp [keys, hk]

/-- The order of the entries does not matter to what is found. -/
theorem get?_perm {d' : Dict α β} (h : d.keys.Nodup) (hperm : d.Perm d') (key : α) :
    d.get? key = d'.get? key := by
  have h' : d'.keys.Nodup := (hperm.map Prod.fst).nodup_iff.mp h
  refine Option.ext fun value => ?_
  rw [get?_eq_some_iff h, get?_eq_some_iff h', hperm.mem_iff]

omit [LawfulBEq α] in
theorem get?_append (l d : Dict α β) (key : α) :
    get? (l ++ d) key = (get? l key).or (get? d key) := by
  induction l with
  | nil => rfl
  | cons e l ih =>
      rw [List.cons_append, get?_cons, get?_cons, ih]
      split <;> rfl

/-! ## Merging -/

theorem keys_set (d : Dict α β) (key : α) (value : β) :
    (d.set key value).keys = addNew d.keys key := by
  induction d with
  | nil => rfl
  | cons e d ih =>
      obtain ⟨k, v⟩ := e
      rw [set]
      by_cases hk : key = k
      · subst hk
        simp [keys]
      · rw [if_neg (by simpa using hk)]
        have hcontains : (keys ((k, v) :: d)).contains key = (keys d).contains key := by
          simp only [keys, List.map_cons, List.contains_cons, beq_eq_false_iff_ne.mpr hk,
            Bool.false_or]
        show k :: (set d key value).keys = _
        rw [ih, addNew, addNew, hcontains]
        split <;> rfl

/-- Keys that are new go to the end, in order. -/
theorem keys_merge (d new : Dict α β) :
    (merge d new).keys = new.keys.foldl addNew d.keys := by
  induction new generalizing d with
  | nil => rfl
  | cons e new ih =>
      have hrest := ih (d.set e.1 e.2)
      rw [keys_set] at hrest
      exact hrest

/-- The last value written under a key is found. -/
theorem get?_merge_eq (d new : Dict α β) (key : α) :
    (merge d new).get? key = (Dict.get? new.reverse key).or (d.get? key) := by
  induction new generalizing d with
  | nil => rfl
  | cons e new ih =>
      show (merge (d.set e.1 e.2) new).get? key = _
      rw [ih, List.reverse_cons, get?_append, Option.or_assoc, get?_set]
      congr 1
      rw [get?_cons]
      split <;> rfl

theorem nodup_keys_merge {new : Dict α β} (h : d.keys.Nodup) : (d.merge new).keys.Nodup := by
  rw [keys_merge]
  exact nodup_foldl_addNew h

/-- Merging brings in nothing but entries of the two dictionaries. -/
theorem mem_merge {new : Dict α β} (h : d.keys.Nodup) {e : α × β} (he : e ∈ d.merge new) :
    e ∈ d ∨ e ∈ new := by
  have hget := (get?_eq_some_iff (nodup_keys_merge h)).mpr he
  rw [get?_merge_eq, Option.or_eq_some_iff] at hget
  rcases hget with hnew | ⟨-, hold⟩
  · exact Or.inr (List.mem_reverse.mp (mem_of_get? hnew))
  · exact Or.inl (mem_of_get? hold)

/-- The dictionary holds each key of the entries, in the order in which the keys first come,
under the last value that the entries give it. -/
structure Gathers (entries : List (α × β)) (d : Dict α β) : Prop where
  keys : d.keys = (entries.map Prod.fst).eraseDups
  last : ∀ key, d.get? key = Dict.get? entries.reverse key

/-- Merging more entries into what was gathered gathers them all. -/
theorem Gathers.merge {entries : List (α × β)} (h : Gathers entries d) (new : Dict α β) :
    Gathers (entries ++ new) (d.merge new) where
  keys := by
    rw [keys_merge, h.keys, ← foldl_addNew_nil, ← List.foldl_append, foldl_addNew_nil,
      List.map_append]
    rfl
  last key := by
    rw [get?_merge_eq, h.last, List.reverse_append, get?_append]

/-- Merging one dictionary after the other gathers the entries of all. -/
theorem Gathers.foldl_merge : ∀ {news : List (Dict α β)} {d : Dict α β} {entries : List (α × β)},
    Gathers entries d → Gathers (entries ++ news.flatten) (news.foldl Dict.merge d)
  | [], d, entries, h => by
      rw [List.flatten_nil, List.append_nil]
      exact h
  | new :: news, d, entries, h => by
      rw [List.flatten_cons, ← List.append_assoc]
      exact Gathers.foldl_merge (h.merge new)

/-- A dictionary gathers its own entries. -/
theorem gathers_self (h : d.keys.Nodup) : Gathers d d where
  keys := (eraseDups_of_nodup h).symm
  last key := get?_perm h d.reverse_perm.symm key

/-! ## Entries without repeated keys -/

theorem set_of_not_mem (h : key ∉ d.keys) : d.set key value = d ++ [(key, value)] := by
  induction d with
  | nil => rfl
  | cons e d ih =>
      obtain ⟨k, v⟩ := e
      obtain ⟨hk, hd⟩ := not_or.mp (mt List.mem_cons.mpr h)
      rw [set, if_neg (by simpa using hk), ih hd, List.cons_append]

theorem merge_of_nodup {new : Dict α β} (h : (d.keys ++ new.keys).Nodup) :
    d.merge new = d ++ new := by
  induction new generalizing d with
  | nil => exact (List.append_nil d).symm
  | cons e new ih =>
      obtain ⟨k, v⟩ := e
      have hk : k ∉ d.keys := by
        intro hmem
        exact (List.nodup_append.mp h).2.2 k hmem k (List.mem_cons_self ..) rfl
      have hrest : (keys (d ++ [(k, v)]) ++ keys new).Nodup := by
        rw [keys, List.map_append, List.append_assoc]
        exact h
      show (d.set k v).merge new = _
      rw [set_of_not_mem hk, ih hrest, List.append_assoc, List.singleton_append]

/-- Reading entries with distinct keys changes nothing about them. -/
theorem ofEntries_of_nodup (h : d.keys.Nodup) : ofEntries d = d :=
  merge_of_nodup (d := []) h

end PatchForge.Dict
