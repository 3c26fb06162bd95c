import Mathlib.Algebra.GroupWithZero.Nat
import PatchForge.Proofs.Grants.Table

/-!
# Histories of the table

A table comes about by grants, made one by one or for all contributors of
an extension point at once (`Operation`). Either way it is filled by
single additions (`Operation.apply_eq`), and for each extension point all
that counts of these is which folders were added for it, in order:
the table has them without their repetitions (`get_addAll`), and its size
is the number of additions that were new (`size_addAll`).

Folders stay in the table. So to gather what was gathered before adds
nothing, whatever has been done since (`after_invariants`).
-/

namespace PatchForge

/-- The folders that gathering adds for the extension point: that of the contributor for every
record that names a header. -/
def ExtensionPoint.additions (p : ExtensionPoint) (modules : List Module) : List Path :=
  if p.slots.contains includeVariable then
    modules.flatMap fun m =>
      ((m.contributions p.name).filter fun r => Dict.contains r includeVariable).map
        fun _ => m.includeDir
  else []

namespace IncludeTable

/-- One step in the history of a table. -/
inductive Operation where
  | add (point : String) (folder : Path)
  | aggregate (p : ExtensionPoint) (modules : List Module)

namespace Operation

def apply : Operation → IncludeTable → IncludeTable
  | .add point folder, t => t.add point folder
  | .aggregate p modules, t => p.grant modules t

/-- The name of the extension point that the operation is for. -/
def point : Operation → String
  | .add point _ => point
  | .aggregate p _ => p.name

/-- The folders that the operation adds, in order, whether they are new or not. -/
def folders : Operation → List Path
  | .add _ folder => [folder]
  | .aggregate p modules => p.additions modules

/-- The single additions that the operation is made of. -/
def additions (o : Operation) : List (String × Path) := o.folders.map fun q => (o.point, q)

end Operation

/-- The table after a history. -/
def after (ops : List Operation) (t : IncludeTable) : IncludeTable :=
  ops.foldl (fun t o => o.apply t) t

def addAll (additions : List (String × Path)) (t : IncludeTable) : IncludeTable :=
  additions.foldl (fun t e => t.add e.1 e.2) t

/-- What the additions answer, one after the other: was the folder new? -/
def answers : List (String × Path) → IncludeTable → List Bool
  | [], _ => []
  | (point, folder) :: additions, t =>
      t.isNew point folder :: answers additions (t.add point folder)

/-- The folders among the additions for one extension point. -/
def foldersFor (point : String) (additions : List (String × Path)) : List Path :=
  (additions.filter fun e => e.1 = point).map (·.2)

variable {t : IncludeTable} {point other : String} {folder q : Path}
  {additions : List (String × Path)} {ops : List Operation}

/-! ## Operations as additions -/

theorem addAll_append (first second : List (String × Path)) (t : IncludeTable) :
    addAll (first ++ second) t = addAll second (addAll first t) := List.foldl_append

/-- A folder that is added many times is added once. -/
theorem addAll_same {α : Type} (point : String) (folder : Path) (l : List α) (t : IncludeTable) :
    addAll (l.map fun _ => (point, folder)) t
      = if l.isEmpty then t else t.add point folder := by
  have hrest : ∀ (l : List α) (t : IncludeTable), folder ∈ t.get point →
      addAll (l.map fun _ => (point, folder)) t = t := by
    intro l
    induction l with
    | nil => exact fun _ _ => rfl
    | cons a l ih =>
        intro t hthere
        show addAll (l.map fun _ => (point, folder)) (t.add point folder) = t
        rw [add_of_mem hthere]
        exact ih t hthere
  cases l with
  | nil => rfl
  | cons a l => exact hrest l _ (mem_get_add.mpr (Or.inr ⟨rfl, rfl⟩))

/-- Gathering asks for the folder of a contributor once for each record. -/
theorem grant_eq_addAll (p : ExtensionPoint) (modules : List Module) (t : IncludeTable) :
    p.grant modules t = addAll ((p.additions modules).map fun q => (p.name, q)) t := by
  unfold ExtensionPoint.additions
  cases hslots : p.slots.contains ExtensionPoint.includeVariable with
  | false =>
      have hnone : modules.filter p.receivesHeader = [] :=
        List.filter_eq_nil_iff.mpr fun m _ => by simp only [ExtensionPoint.receivesHeader, hslots,
          Bool.false_and, Bool.false_eq_true, not_false_eq_true]
      rw [ExtensionPoint.grant, hnone]
      rfl
  | true =>
      rw [if_pos rfl]
      induction modules generalizing t with
      | nil => rfl
      | cons m modules ih =>
          have hreceives : p.receivesHeader m = !((m.contributions p.name).filter
              fun r => Dict.contains r ExtensionPoint.includeVariable).isEmpty := by
            rw [ExtensionPoint.receivesHeader, hslots, Bool.true_and, Bool.eq_iff_iff]
            simp [List.any_eq_true]
          rw [List.flatMap_cons, List.map_append, addAll_append, List.map_map,
            show ((fun q => (p.name, q)) ∘ fun _ : Record => m.includeDir)
              = fun _ => (p.name, m.includeDir) from rfl, addAll_same, ← ih,
            ExtensionPoint.grant, ExtensionPoint.grant]
          cases hempty : ((m.contributions p.name).filter
              fun r => Dict.contains r ExtensionPoint.includeVariable).isEmpty with
          | true =>
              rw [List.filter_cons_of_neg (by rw [hreceives, hempty]; decide), if_pos rfl]
          | false =>
              rw [List.filter_cons_of_pos (by rw [hreceives, hempty]; rfl), List.foldl_cons]
              rfl

theorem Operation.apply_eq (o : Operation) (t : IncludeTable) :
    o.apply t = addAll o.additions t := by
  cases o with
  | add point folder => rfl
  | aggregate p modules => exact grant_eq_addAll p modules t

theorem after_eq (ops : List Operation) (t : IncludeTable) :
    after ops t = addAll (ops.flatMap Operation.additions) t := by
  induction ops generalizing t with
  | nil => rfl
  | cons o ops ih =>
      rw [List.flatMap_cons, addAll_append, ← Operation.apply_eq]
      exact ih (o.apply t)

/-! ## What a history leaves -/

theorem get_add_addNew (t : IncludeTable) (point other : String) (folder : Path) :
    (t.add point folder).get other
      = if point = other then addNew (t.get other) folder else t.get other := by
  rw [get_add]
  by_cases h : other = point
  · subst h
    rw [if_pos rfl, if_pos rfl, isNew, addNew]
    cases (t.get other).contains folder <;> rfl
  · rw [if_neg h, if_neg (Ne.symm h)]

/-- An extension point has the folders added for it, each once, after those it had. -/
theorem get_addAll (additions : List (String × Path)) (t : IncludeTable) (point : String) :
    (addAll additions t).get point = (foldersFor point additions).foldl addNew (t.get point) := by
  induction additions generalizing t with
  | nil => rfl
  | cons e additions ih =>
      show (addAll additions (t.add e.1 e.2)).get point = _
      rw [ih, get_add_addNew, foldersFor, foldersFor]
      by_cases h : e.1 = point
      · simp [h]
      · simp [h]

theorem foldersFor_append (first second : List (String × Path)) :
    foldersFor point (first ++ second)
      = foldersFor point first ++ foldersFor point second := by
  simp [foldersFor]

theorem foldersFor_additions (o : Operation) :
    foldersFor point o.additions = if o.point = point then o.folders else [] := by
  by_cases h : o.point = point
  · simp [foldersFor, Operation.additions, h, List.filter_map, Function.comp_def]
  · simp [foldersFor, Operation.additions, h, List.filter_map, Function.comp_def]

/-- The folders added for an extension point, operation after operation. -/
theorem foldersFor_flatMap (ops : List Operation) (point : String) :
    foldersFor point (ops.flatMap Operation.additions)
      = (ops.filter fun o => o.point = point).flatMap Operation.folders := by
  induction ops with
  | nil => rfl
  | cons o ops ih =>
      rw [List.flatMap_cons, foldersFor_append, foldersFor_additions, ih]
      by_cases h : o.point = point
      · simp [h]
      · simp [h]

/-! ## The size -/

theorem size_eq_sum (t : IncludeTable) : t.size = (t.grants.map fun e => e.2.length).sum := by
  have hfrom : ∀ (grants : Dict String (List Path)) (n : Nat),
      grants.foldl (fun n e => n + e.2.length) n = n + (grants.map fun e => e.2.length).sum := by
    intro grants
    induction grants with
    | nil => exact fun _ => rfl
    | cons e grants ih =>
        intro n
        rw [List.foldl_cons, ih, List.map_cons, List.sum_cons, Nat.add_assoc]
  rw [size, hfrom, Nat.zero_add]

/-- Writing a list under a key replaces the length of the one that was there. -/
theorem sum_set (grants : Dict String (List Path)) (point : String) (folders : List Path) :
    ((grants.set point folders).map fun e => e.2.length).sum + ((grants.get? point).getD []).length
      = (grants.map fun e => e.2.length).sum + folders.length := by
  induction grants with
  | nil => simp [Dict.set]
  | cons e grants ih =>
      obtain ⟨k, v⟩ := e
      rw [Dict.set, Dict.get?_cons]
      by_cases h : point = k
      · simp [h]
        omega
      · simp [h]
        omega

theorem size_add (t : IncludeTable) (point : String) (folder : Path) :
    (t.add point folder).size = t.size + if t.isNew point folder then 1 else 0 := by
  have hget : (t.grants.get? point).getD [] = t.get point := rfl
  rw [size_eq_sum, size_eq_sum]
  show ((t.grants.set point _).map fun e => e.2.length).sum = _
  by_cases hnew : t.isNew point folder = true
  · have hsum := sum_set t.grants point (t.get point ++ [folder])
    rw [hget, List.length_append, List.length_singleton] at hsum
    rw [if_pos hnew, if_pos hnew]
    omega
  · have hsum := sum_set t.grants point (t.get point)
    rw [hget] at hsum
    rw [if_neg hnew, if_neg hnew]
    omega

/-- The size counts the additions that were new. -/
theorem size_addAll (additions : List (String × Path)) (t : IncludeTable) :
    (addAll additions t).size = t.size + (answers additions t).count true := by
  induction additions generalizing t with
  | nil => rfl
  | cons e additions ih =>
      show (addAll additions (t.add e.1 e.2)).size = _
      rw [ih, size_add, answers, List.count_cons]
      cases t.isNew e.1 e.2 with
      | true => simp; omega
      | false => simp

/-! ## The folders of a module -/

/-- The folders of a module's extension points, in the order of their declarations. -/
theorem forModule_eq (t : IncludeTable) (m : Module) :
    t.forModule m = (m.extensionPoints.flatMap fun p => t.get p.name).eraseDups := by
  rw [← foldl_addNew_nil, List.foldl_flatMap]
  rfl

theorem nodup_eraseDups {α : Type} [BEq α] [LawfulBEq α] (l : List α) : l.eraseDups.Nodup := by
  rw [← foldl_addNew_nil]
  exact nodup_foldl_addNew List.nodup_nil

theorem mem_additions {p : ExtensionPoint} {modules : List Module} :
    q ∈ p.additions modules ↔ ∃ m ∈ modules, p.receivesHeader m = true ∧ m.includeDir = q := by
  unfold ExtensionPoint.additions
  by_cases hslots : ExtensionPoint.includeVariable ∈ p.slots
  · simp [ExtensionPoint.receivesHeader_iff, hslots, eq_comm (a := q)]
  · simp [ExtensionPoint.receivesHeader_iff, hslots]

/-! ## All histories -/

/-- **Histories of the table.** After any history from the empty table:

- an extension point has the folders that the operations for it added, in the order in which each
  was first added and none twice;
- the size is the number of additions that were answered with yes;
- an operation leaves the folders of all extension points alone but for its own;
- to gather for an extension point what was gathered for it before, from the same modules,
  changes nothing;
- a module has the folders of its extension points, in the order of the declarations and none
  twice. -/
theorem after_invariants (ops : List Operation) :
    (∀ point, (after ops empty).get point
          = ((ops.filter fun o => o.point = point).flatMap Operation.folders).eraseDups
        ∧ ((after ops empty).get point).Nodup)
      ∧ (after ops empty).size = (answers (ops.flatMap Operation.additions) empty).count true
      ∧ (∀ (o : Operation) (point : String), o.point ≠ point →
          (o.apply (after ops empty)).get point = (after ops empty).get point)
      ∧ (∀ p modules, .aggregate p modules ∈ ops →
          p.grant modules (after ops empty) = after ops empty)
      ∧ ∀ m : Module, (after ops empty).forModule m
            = (m.extensionPoints.flatMap fun p => (after ops empty).get p.name).eraseDups
          ∧ ((after ops empty).forModule m).Nodup := by
  have hget : ∀ point, (after ops empty).get point
      = ((ops.filter fun o => o.point = point).flatMap Operation.folders).eraseDups := by
    intro point
    rw [after_eq, get_addAll, foldersFor_flatMap, get_empty, foldl_addNew_nil]
  refine ⟨fun point => ⟨hget point, ?_⟩, ?_, fun o point hne => ?_, fun p modules hmem => ?_,
    fun m => ⟨forModule_eq _ m, ?_⟩⟩
  · rw [hget]
    exact nodup_eraseDups _
  · rw [after_eq, size_addAll]
    exact Nat.zero_add _
  · rw [Operation.apply_eq, get_addAll, foldersFor_additions, if_neg hne]
    rfl
  · refine ExtensionPoint.grant_of_granted fun m hm hreceives => ?_
    rw [hget, List.mem_eraseDups]
    refine List.mem_flatMap.mpr ⟨.aggregate p modules, List.mem_filter.mpr ⟨hmem, ?_⟩, ?_⟩
    · exact decide_eq_true rfl
    · exact mem_additions.mpr ⟨m, hm, hreceives, rfl⟩
  · rw [forModule_eq]
    exact nodup_eraseDups _

/-! ### A hook that is gathered for twice -/

def hookPoint : ExtensionPoint :=
  { (default : ExtensionPoint) with name := "Hooks", slots := ["Include", "Name"] }

/-- A module that brings two headers to the hook. -/
def hornModule : Module :=
  { (default : Module) with
    name := "Horn", folder := ⟨.top, ["Horn"]⟩, extensionPoints := [hookPoint],
    data := [("Hooks", [[("Include", "a.h")], [("Name", "b")], [("Include", "c.h")]])] }

/-- Both modes of the hook gather, and a folder is added by hand in between. -/
def hookHistory : List Operation :=
  [.aggregate hookPoint [hornModule], .add "Hooks" ⟨.top, ["Viola", "include"]⟩,
    .add "Other" ⟨.top, ["Horn", "include"]⟩, .aggregate hookPoint [hornModule]]

theorem after_invariants_hooks :
    .aggregate hookPoint [hornModule] ∈ hookHistory
      ∧ hookPoint.grant [hornModule] (after hookHistory empty) = after hookHistory empty
      ∧ "Hooks" ≠ "Other"
      ∧ ((Operation.add "Hooks" ⟨.top, ["Cello"]⟩).apply (after hookHistory empty)).get "Other"
        = (after hookHistory empty).get "Other"
      ∧ (after hookHistory empty).forModule hornModule
        = [⟨.top, ["Horn", "include"]⟩, ⟨.top, ["Viola", "include"]⟩]
      ∧ (after hookHistory empty).size = 3 := by
  obtain ⟨-, hsize, hothers, hagain, hmodule⟩ := after_invariants hookHistory
  have hmem : Operation.aggregate hookPoint [hornModule] ∈ hookHistory := List.mem_cons_self ..
  refine ⟨hmem, hagain _ _ hmem, by decide, hothers _ _ (by decide), ?_, ?_⟩
  · rw [(hmodule hornModule).1]
    decide +kernel
  · rw [hsize]
    decide +kernel

end IncludeTable

end PatchForge
