import PatchForge.Workshop

/-!
# Disc files

Files that modules ship for the disc go into the output folder under the
same relative paths. A file that is already there is replaced, so the
last module wins; a file that cannot be copied is reported and passed
over.
-/

namespace PatchForge

/-- The files below a folder, in order. Each path is asked about once more. -/
def filesBelow (folder : Path) : Work (List Path) := do
  (← Work.below folder).filterM Work.isFile

/-- Copies a file over whatever file is at the target. -/
def replaceFile (source target : Path) : Work Unit := do
  if ← Work.exists? target then
    Work.say (.info (" - File will replace " ++ target.text) none)
  Work.makeFolders target.parent
  Work.copyFile source target

/-- Copies one disc file and gives its new path, or reports why it cannot be copied. -/
def copyDiscFile (folder output source : Path) : Work (Option Path) := do
  let target := output.join ⟨.here, source.names.drop folder.names.length⟩
  try
    replaceFile source target
    return some target
  catch f =>
    if f.isDisk then
      Work.say (.warning ("Error while copying " ++ source.text ++ ": " ++ f.message) none)
      return none
    else Work.fail f

/-- Copies the disc files of a module. -/
def copyDiscFiles (m : Module) (output : Path) : Work (List Path) := do
  let folder := m.discDir
  if !(← Work.isFolder folder) then return []
  Work.say (.info ("Copying files from " ++ folder.text) "folder")
  return (← (← filesBelow folder).mapM (copyDiscFile folder output)).filterMap id

/-- Copies the disc files of all modules, in order. -/
def copyAllDiscFiles (modules : List Module) (output : Path) : Work (List Path) := do
  return (← modules.mapM fun m => copyDiscFiles m output).flatten

end PatchForge
