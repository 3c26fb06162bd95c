import PatchForge.Declaration.Basic

/-!
# Granted include folders

While data is gathered, contributors grant their include folders to the
extension points they bring headers to. The table keeps the folders of
each extension point in the order in which they were first granted and
never twice. It stands apart from the declarations, which do not change.
-/

namespace PatchForge

/-- The folders granted to extension points, by the name of the extension point. -/
structure IncludeTable where
  grants : Dict String (List Path)
  deriving Inhabited

namespace IncludeTable

def empty : IncludeTable := ⟨[]⟩

/-- The folders granted to an extension point. -/
def get (t : IncludeTable) (point : String) : List Path :=
  (t.grants.get? point).getD []

/-- Is the folder not yet granted to the extension point? -/
def isNew (t : IncludeTable) (point : String) (folder : Path) : Bool :=
  !(t.get point).contains folder

/-- Grants a folder to an extension point, unless it has it. -/
def add (t : IncludeTable) (point : String) (folder : Path) : IncludeTable :=
  ⟨t.grants.set point (if t.isNew point folder then t.get point ++ [folder] else t.get point)⟩

/-- Appends the paths that a list lacks, each once. -/
def appendNew (paths new : List Path) : List Path :=
  new.foldl (fun acc p => if acc.contains p then acc else acc ++ [p]) paths

/-- The folders granted to any extension point of a module. -/
def forModule (t : IncludeTable) (m : Module) : List Path :=
  m.extensionPoints.foldl (fun acc point => appendNew acc (t.get point.name)) []

/-- The number of grants. -/
def size (t : IncludeTable) : Nat :=
  t.grants.foldl (fun n e => n + e.2.length) 0

/-! ## What adding changes -/

@[simp] theorem get_empty (point : String) : empty.get point = [] := rfl

theorem get_add (t : IncludeTable) (point other : String) (folder : Path) :
    (t.add point folder).get other =
      if other = point then
        if t.isNew point folder then t.get point ++ [folder] else t.get point
      else t.get other := by
  by_cases h : other = point
  · subst h; simp [get, add, Dict.get?_set]
  · simp [get, add, Dict.get?_set, h]

/-- An extension point other than the one granted to keeps its folders. -/
theorem get_add_of_ne (t : IncludeTable) {point other : String} (folder : Path)
    (h : other ≠ point) : (t.add point folder).get other = t.get other := by
  simp [get_add, h]

end IncludeTable

end PatchForge
