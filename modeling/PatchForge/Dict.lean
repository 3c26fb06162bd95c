/-!
# Dictionaries in order of first appearance

A dictionary is the list of its entries, each key once, in the order in
which the keys first came. Writing a key that is present keeps its
place and changes its value; a new key goes to the end. `ofEntries`
reads a list that may repeat keys: the first position and the last
value of each survive.
-/

namespace PatchForge

/-- Entries with distinct keys, in order of first appearance. -/
abbrev Dict (α β : Type) := List (α × β)

namespace Dict

variable {α β : Type} [BEq α]

/-- The value under a key. -/
def get? : Dict α β → α → Option β
  | [], _ => none
  | (k, v) :: rest, key => if key == k then some v else get? rest key

def contains (d : Dict α β) (key : α) : Bool :=
  (d.get? key).isSome

/-- Writes a value under a key: in place if the key is present, else at the end. -/
def set : Dict α β → α → β → Dict α β
  | [], key, value => [(key, value)]
  | (k, v) :: rest, key, value =>
    if key == k then (k, value) :: rest else (k, v) :: set rest key value

/-- Writes the entries of `new` into `d`, in order. -/
def merge (d new : Dict α β) : Dict α β :=
  new.foldl (fun acc e => acc.set e.1 e.2) d

/-- The dictionary that a list of entries describes. -/
def ofEntries (entries : List (α × β)) : Dict α β :=
  merge [] entries

def keys (d : Dict α β) : List α :=
  List.map Prod.fst d

/-! ## What reading sees -/

@[simp] theorem get?_nil (key : α) : get? ([] : Dict α β) key = none := rfl

theorem get?_cons (k : α) (v : β) (d : Dict α β) (key : α) :
    get? ((k, v) :: d) key = if key == k then some v else get? d key := rfl

/-- Writing a key is seen under that key and under no other. -/
theorem get?_set [LawfulBEq α] (d : Dict α β) (key other : α) (value : β) :
    get? (set d key value) other = if other == key then some value else get? d other := by
  induction d with
  | nil => simp [set, get?_cons]
  | cons e d ih =>
    obtain ⟨k, v⟩ := e
    by_cases hk : key = k
    · subst hk
      by_cases ho : other = key
      · subst ho; simp [set, get?_cons]
      · simp [set, get?_cons, ho]
    · by_cases ho : other = k
      · subst ho
        have : ¬ other = key := fun h => hk h.symm
        simp [set, get?_cons, hk, this]
      · simp [set, get?_cons, hk, ho, ih]

theorem get?_merge_of_not_mem [LawfulBEq α] {key : α} : ∀ {new d : Dict α β},
    key ∉ new.map Prod.fst → get? (merge d new) key = get? d key
  | [], d, _ => rfl
  | (k, v) :: new, d, h => by
    rw [List.map_cons, List.mem_cons, not_or] at h
    have hk : (key == k) = false := beq_eq_false_iff_ne.mpr h.1
    rw [merge, List.foldl_cons, ← merge, get?_merge_of_not_mem h.2, get?_set, hk]
    rfl

/-- Entries of distinct keys are all found. -/
theorem get?_merge [LawfulBEq α] {key : α} {value : β} : ∀ {new d : Dict α β},
    (new.map Prod.fst).Nodup → (key, value) ∈ new → get? (merge d new) key = some value
  | [], d, _, hmem => by cases hmem
  | (k, v) :: new, d, h, hmem => by
    obtain ⟨hk, hnew⟩ := List.nodup_cons.mp h
    rw [merge, List.foldl_cons, ← merge]
    rcases List.mem_cons.mp hmem with heq | hmem
    · cases heq
      rw [get?_merge_of_not_mem hk, get?_set, if_pos (beq_self_eq_true key)]
    · exact get?_merge hnew hmem

end Dict

end PatchForge
