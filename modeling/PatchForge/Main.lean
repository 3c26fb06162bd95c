import PatchForge.Command.Run

/-!
# The program

Reads the folders that a command can touch into a workshop, runs the
command there, and carries the changes of the file tree back. The
toolchain is not started from here: a start is refused, so a build ends
where it needs the compiler.
-/

namespace PatchForge.Main

/-! ## Reading folders -/

/-- Reads what lies at a place, and below it if it is a folder. -/
partial def readTree (disk : Disk) (place : Place) : IO Disk := do
  let path := (← IO.currentDir) / ("/" ++ "/".intercalate place)
  if ← path.isDir then
    let mut disk := disk.plant place .folder
    for entry in ← path.readDir do
      disk ← readTree disk (place ++ [entry.fileName])
    return disk
  else if ← path.pathExists then
    return disk.plant place (.file (← IO.FS.readBinFile path))
  else return disk

/-- The places of some paths as seen from a folder. -/
def placesOf (here : Place) (paths : List Path) : List Place :=
  paths.map fun p => (Path.resolve ⟨.top, here⟩ p).names

/-- The folders that arguments and the project file name. -/
def namedFolders (arguments : List String) : Work (List Path) := do
  let plan ← BuildPlan.ofFile (Path.parse BuildPlan.fileName) {}
  let stored ← UserConfig.toolchainFolder
  return (arguments ++ plan.modulesFolder.toList ++ plan.outputFolder.toList ++
    [plan.toolchainFolder.text, stored.text]).map Path.parse

/-- The folders that the link files of some folders name. -/
def linkedFolders (folders : List Path) : Work (List Path) := do
  let found ← folders.mapM fun folder => do
    if !(← Work.isFolder folder) then return []
    let files ← Discovery.linkFiles folder
    return (← files.mapM fun file => Discovery.linkTargets file folder).flatten
  return found.flatten

/-- The result of a question to a workshop; a question that fails has an empty answer. -/
def ask (question : Work (List Path)) (w : Workshop) : List Path :=
  (question.run w).1.toOption.getD []

/-- The workshop in which a command runs. -/
def openWorkshop (arguments : List String) : IO Workshop := do
  let here := (Path.parse (← IO.currentDir).toString).names
  let home := Path.parse ((← IO.getEnv "HOME").getD "/")
  let settings := placesOf here [UserConfig.folder home]
  let disk ← (here :: settings).foldlM readTree Disk.empty
  let w : Workshop := { disk, here, home, outcomes := [{ refused := some .denied }] }
  let named := ask (namedFolders arguments) w
  let disk ← (placesOf here named).foldlM readTree w.disk
  let linked := ask (linkedFolders named) { w with disk }
  let disk ← (placesOf here linked).foldlM readTree disk
  return { w with disk }

/-! ## Carrying changes back -/

/-- Makes the files and folders that are new or changed. -/
def writeEntry (place : Place) (entry : Entry) : IO Unit := do
  let path := (← IO.currentDir) / ("/" ++ "/".intercalate place)
  match entry with
  | .folder => IO.FS.createDirAll path
  | .file content => IO.FS.writeBinFile path content

/-- Takes away what is gone. -/
def removeEntry (place : Place) (entry : Entry) : IO Unit := do
  let path := (← IO.currentDir) / ("/" ++ "/".intercalate place)
  match entry with
  | .folder => IO.FS.removeDir path
  | .file _ => IO.FS.removeFile path

/-- The entries of a tree that another lacks or has with another content, upper ones first. -/
def difference (d other : Disk) : List (Place × Entry) :=
  (d.entries.filter fun e => other.get? e.1 ≠ some e.2).mergeSort fun a b =>
    a.1.length ≤ b.1.length

def carryBack (before after : Disk) : IO Unit := do
  for e in (difference before after).reverse do
    if (after.get? e.1).isNone then removeEntry e.1 e.2
  for e in difference after before do
    writeEntry e.1 e.2

end PatchForge.Main

open PatchForge in
/-- Runs the tool with its arguments. -/
def main (arguments : List String) : IO UInt32 := do
  let before ← Main.openWorkshop arguments
  let (result, after) := (Command.run arguments).run before
  Main.carryBack before.disk after.disk
  for text in after.said do
    IO.println text
  for text in after.complained do
    IO.eprintln text
  match result with
  | .ok code => return code.toUInt32
  | .error _ => return 1
