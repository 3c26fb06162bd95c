import PatchForge.Json.Writer
import PatchForge.Workshop

/-!
# The user's settings

Settings that outlive a build are one JSON object in a file in the user's
home. The file is made, empty, when the settings are first asked for.
An update is a merge of dictionaries: settings that are there keep their
place, new ones go to the end.
-/

namespace PatchForge.UserConfig

/-- The folder of the settings. -/
def folder (home : Path) : Path := home.child ".modbuild"

def file (home : Path) : Path := (folder home).child "config.json"

/-- Does something lie at a path? A path that cannot be looked up leads to nothing. -/
def isThere (p : Path) : Work Bool := do
  try Work.exists? p catch _ => return false

/-- Makes the file of the settings, unless it is there. -/
def ensure (home : Path) : Work Unit := do
  if !(← isThere (folder home)) then Work.makeFolders (folder home)
  if !(← isThere (file home)) then Work.writeText (file home) (Json.render none (.obj []))

/-- The settings, which may be any JSON value. -/
def load : Work Json := do
  let home := (← get).home
  ensure home
  Work.ofExcept .json (Json.parse (← Work.readText (file home)))

/-- Merges settings into those that are stored, which must be an object. -/
def update (new : Dict String Json) : Work Unit := do
  match ← load with
  | .obj fields =>
    Work.writeText (file (← get).home) (Json.render (some 2) (.obj (Dict.merge fields new)))
  | v => Work.fail (.misuse (.asked v.kind "update"))

/-- The setting that names the toolchain folder. -/
def toolchainKey : String := "syati_dir"

/-- The stored toolchain folder; null if none is stored. -/
def toolchainFolder : Work Json := do
  match ← load with
  | .obj fields => return Json.fieldOrNull fields toolchainKey
  | v => Work.fail (.misuse (.asked v.kind "get"))

/-- Stores the toolchain folder as an absolute path. -/
def setToolchainFolder (path : String) : Work Unit := do
  let absolute := Path.normalise ⟨.top, (← get).here⟩ (Path.parse path)
  update [(toolchainKey, .str absolute.text)]

end PatchForge.UserConfig
