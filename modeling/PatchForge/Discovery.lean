import PatchForge.Declaration.Loading

/-!
# Discovery of modules

A modules folder holds module folders and link files. The module folders
load first, in order; then each link file, in order, names further
folders, one a line. No folder loads twice. A file of ignored names keeps
folders out wherever they come from; a folder that is not there only
draws a warning.
-/

namespace PatchForge

/-- The modules found so far, in the order they were loaded, and what was passed over. -/
structure Discovery where
  modules : List Module := []
  ignored : List String := []
  warnings : List String := []
  deriving Inhabited

namespace Discovery

/-- The file that lists ignored names. -/
def ignoreName : String := ".moduleignore"

/-- The entries of a text: its lines without surrounding blanks, empty ones left out. -/
def entriesOf (text : String) : List String :=
  ((Text.lines text).map Text.trim).filter (· ≠ "")

/-- The names that a modules folder ignores. -/
def ignoredNames (folder : Path) : Work (List String) := do
  let file := folder.child ignoreName
  if ← Work.isFile file then return entriesOf (← Work.readText file)
  return []

/-- The names in order, each once. -/
def sortedNames (names : List String) : List String :=
  (distinct names).mergeSort fun a b => a ≤ b

/-- Keeps the paths with a property of the file tree. -/
def keep (property : Path → Work Bool) : List Path → Work (List Path)
  | [] => pure []
  | p :: ps => do
    let kept ← property p
    let rest ← keep property ps
    return if kept then p :: rest else rest

/-- A name that a link file can have: no suffix and no dot in front. -/
def isLinkName (p : Path) : Bool :=
  p.suffix = "" && p.name.toList.head? ≠ some '.'

/-- The link files of a modules folder, in order. -/
def linkFiles (folder : Path) : Work (List Path) := do
  keep (fun p => do return (← Work.isFile p) && isLinkName p) (← Work.children folder)

/-- The folder that an entry of a link file names. Entries that start with a dot are seen from
the modules folder. -/
def linkTarget (folder : Path) (entry : String) : Path :=
  if entry.toList.head? = some '.' then folder.child entry else Path.parse entry

/-- The folders that a link file names. -/
def linkTargets (file folder : Path) : Work (List Path) := do
  return (entriesOf (← Work.readText file)).map (linkTarget folder)

/-- Has this folder been loaded? -/
def hasLoaded (d : Discovery) (folder : Path) : Bool :=
  d.modules.any fun m => m.folder = folder

/-- Takes note of a warning, and says it if told to. -/
def warn (d : Discovery) (verbose : Bool) (text : String) : Work Discovery := do
  Work.sayIf verbose (.warning text none)
  return { d with warnings := d.warnings ++ [text] }

/-- Loads the module in a folder, if it is one to load. -/
def visit (ignored : List String) (verbose : Bool) (d : Discovery) (folder : Path) :
    Work Discovery := do
  let folder ← Work.resolve folder
  if d.hasLoaded folder then return d
  if ignored.contains folder.name then
    Work.sayIf verbose (.info (folder.name ++ " Ignored by " ++ ignoreName) none)
    return { d with ignored := d.ignored ++ [folder.name] }
  if !(← Work.isFolder folder) then
    d.warn verbose ("Failed to load module: \"" ++ folder.text ++ "\"")
  else
    Work.sayIf verbose (.info ("Loading module from " ++ folder.text) none)
    let m ← loadModule folder
    return { d with modules := d.modules ++ [m] }

/-- A reading that failed for the file's sake gives its message; other failures stay. -/
def readable {α : Type} (work : Work α) : Work (Except String α) := do
  try return .ok (← work)
  catch f =>
    match f with
    | .utf8 _ => return .error f.message
    | _ => if f.isDisk then return .error f.message else Work.fail f

/-- Loads the folders that a link file names. -/
def visitLinks (folder : Path) (ignored : List String) (verbose : Bool) (d : Discovery)
    (file : Path) : Work Discovery := do
  match ← readable (linkTargets file folder) with
  | .ok targets => targets.foldlM (visit ignored verbose) d
  | .error text => d.warn verbose ("Could not read link file " ++ file.name ++ ": " ++ text)

end Discovery

/-- Finds and loads the modules of a modules folder. -/
def discover (folder : Path) (verbose : Bool) : Work Discovery := do
  let folder ← Work.resolve folder
  let ignored ← Discovery.ignoredNames folder
  let folders ← Discovery.keep Work.isFolder (← Work.children folder)
  let d ← folders.foldlM (Discovery.visit ignored verbose) {}
  let links ← Discovery.linkFiles folder
  links.foldlM (Discovery.visitLinks folder ignored verbose) d

end PatchForge
