import PatchForge.Dict
import PatchForge.Path

/-!
# Files and folders

The file tree as a value: every file and folder by its place, a place
being the names that lead to it from the top. The top folder is always
there. A path is followed name by name (`Disk.follow`): each step needs
the folder it starts from, `..` steps up, and the last step may lead to a
place where nothing is yet.

Each operation either changes the tree as a whole or gives the error for
which it left it alone.

It is a tree and no more: a file has one place, and nothing but its bytes.
Left out are symbolic links, second names for one file, permissions, and
names that are no Unicode text. Work that meets any of these can end in
ways that are not described here.
-/

namespace PatchForge

/-- Why the file tree refuses an operation. -/
inductive DiskError where
  | missing
  | denied
  | occupied
  | notFolder
  | isFolder
  | nameTooLong
  deriving DecidableEq, Repr

/-- The usual number of an error. -/
def DiskError.number : DiskError → Nat
  | .missing => 2
  | .denied => 13
  | .occupied => 17
  | .notFolder => 20
  | .isFolder => 21
  | .nameTooLong => 36

def DiskError.text : DiskError → String
  | .missing => "No such file or directory"
  | .denied => "Permission denied"
  | .occupied => "File exists"
  | .notFolder => "Not a directory"
  | .isFolder => "Is a directory"
  | .nameTooLong => "File name too long"

/-- What lies at a place. -/
inductive Entry where
  | folder
  | file (content : ByteArray)
  deriving Inhabited

/-- Two entries are one if they are of one kind and files have the same bytes. -/
instance : DecidableEq Entry
  | .folder, .folder => isTrue rfl
  | .folder, .file _ => isFalse nofun
  | .file _, .folder => isFalse nofun
  | .file ⟨a⟩, .file ⟨b⟩ =>
    if h : a = b then isTrue (by rw [h]) else isFalse (by rintro ⟨⟩; exact h rfl)

/-- The names that lead to a file or folder from the top. -/
abbrev Place := List String

/-- A file tree. -/
structure Disk where
  entries : Dict Place Entry
  deriving Inhabited

namespace Disk

def empty : Disk := ⟨[]⟩

/-- What lies at a place. -/
def get? (d : Disk) (place : Place) : Option Entry :=
  if place = [] then some .folder else d.entries.get? place

/-- Puts an entry at a place, instead of what lay there. -/
def put (d : Disk) (place : Place) (entry : Entry) : Disk :=
  ⟨d.entries.set place entry⟩

/-- Takes away what lies at a place. -/
def erase (d : Disk) (place : Place) : Disk :=
  ⟨d.entries.filter fun e => e.1 ≠ place⟩

/-- Takes away what lies at a place and below it. -/
def eraseTree (d : Disk) (place : Place) : Disk :=
  ⟨d.entries.filter fun e => !place.isPrefixOf e.1⟩

/-- The places below a place, as the names that lead there from it. -/
def below (d : Disk) (place : Place) : List (List String × Entry) :=
  d.entries.filterMap fun e =>
    if place.isPrefixOf e.1 && e.1 ≠ place then some (e.1.drop place.length, e.2) else none

/-- The names in a folder. -/
def childNames (d : Disk) (place : Place) : List String :=
  (d.below place).filterMap fun e =>
    match e.1 with
    | [name] => some name
    | _ => none

/-! ## What the changes are seen as -/

theorem get?_put (d : Disk) {place : Place} (other : Place) (entry : Entry) (h : place ≠ []) :
    (d.put place entry).get? other = if other = place then some entry else d.get? other := by
  unfold get? put
  by_cases ho : other = []
  · subst ho
    have : ¬ ([] : Place) = place := fun e => h e.symm
    simp [this]
  · simp [ho, Dict.get?_set]

/-! ## Following a path -/

/-- The most bytes that a name may take. -/
def nameLimit : Nat := 255

/-- The number of bytes from which a path is refused. -/
def pathLimit : Nat := 4096

end Disk

/-- The path, or a name in it, is longer than file trees allow. -/
def Path.TooLong (p : Path) : Prop :=
  Disk.pathLimit ≤ p.text.utf8ByteSize ∨ ∃ name ∈ p.names, Disk.nameLimit < name.utf8ByteSize

instance (p : Path) : Decidable p.TooLong :=
  inferInstanceAs (Decidable (_ ∨ _))

namespace Disk

/-- One step from a place. -/
def step (d : Disk) (place : Place) (name : String) : Except DiskError Place :=
  match d.get? place with
  | none => .error .missing
  | some (.file _) => .error .notFolder
  | some .folder =>
    if name = ".." then .ok place.dropLast
    else if nameLimit < name.utf8ByteSize then .error .nameTooLong
    else .ok (place ++ [name])

/-- Where names lead from a place. -/
def walk (d : Disk) : Place → List String → Except DiskError Place
  | place, [] => .ok place
  | place, name :: names =>
    match d.step place name with
    | .ok place => d.walk place names
    | .error e => .error e

/-- Where a path leads, a relative path starting in the folder at `here`. -/
def follow (d : Disk) (here : Place) (p : Path) : Except DiskError Place :=
  if pathLimit ≤ p.text.utf8ByteSize then .error .nameTooLong
  else d.walk (if p.isAbsolute then [] else here) p.names

/-- Where a path leads and what lies there. -/
def find (d : Disk) (here : Place) (p : Path) : Except DiskError (Place × Entry) :=
  match d.follow here p with
  | .error e => .error e
  | .ok place =>
    match d.get? place with
    | some entry => .ok (place, entry)
    | none => .error .missing

/-! ## Operations -/

/-- The content of a file. -/
def read (d : Disk) (here : Place) (p : Path) : Except DiskError ByteArray :=
  match d.find here p with
  | .ok (_, .file content) => .ok content
  | .ok (_, .folder) => .error .isFolder
  | .error e => .error e

/-- The tree in which the file at a path has that content. -/
def write (d : Disk) (here : Place) (p : Path) (content : ByteArray) : Except DiskError Disk :=
  match d.follow here p with
  | .error e => .error e
  | .ok place =>
    match d.get? place with
    | some .folder => .error .isFolder
    | _ => .ok (d.put place (.file content))

/-- The tree without the file at a path. -/
def unlink (d : Disk) (here : Place) (p : Path) : Except DiskError Disk :=
  match d.find here p with
  | .ok (place, .file _) => .ok (d.erase place)
  | .ok (_, .folder) => .error .isFolder
  | .error e => .error e

/-- The tree with a new folder at a path. -/
def makeFolder (d : Disk) (here : Place) (p : Path) : Except DiskError Disk :=
  match d.follow here p with
  | .error e => .error e
  | .ok place =>
    match d.get? place with
    | some _ => .error .occupied
    | none => .ok (d.put place .folder)

/-- The tree without the folder at a path and all that is below it. -/
def removeTree (d : Disk) (here : Place) (p : Path) : Except DiskError Disk :=
  match d.find here p with
  | .ok (place, .folder) => .ok (d.eraseTree place)
  | .ok (_, .file _) => .error .notFolder
  | .error e => .error e

/-- The names in the folder at a path. -/
def list (d : Disk) (here : Place) (p : Path) : Except DiskError (List String) :=
  match d.find here p with
  | .ok (place, .folder) => .ok (d.childNames place)
  | .ok (_, .file _) => .error .notFolder
  | .error e => .error e

/-! ## Trees from lists of files -/

/-- Makes the folders that lead to a place, unless they are there. -/
def withParents (d : Disk) (place : Place) : Disk :=
  (place.dropLast.foldl (fun (d, at_) name =>
    let next := at_ ++ [name]
    (if (d.get? next).isSome then d else d.put next .folder, next)) (d, ([] : Place))).1

/-- Puts an entry at a place and makes the folders that lead there. -/
def plant (d : Disk) (place : Place) (entry : Entry) : Disk :=
  if place = [] then d else (d.withParents place).put place entry

end Disk

end PatchForge
