import PatchForge.Compilation

/-!
# Linking

The objects of a build become one binary patch and its map. Symbols come
from the toolchain and from every module that ships some.
-/

namespace PatchForge

/-- The folders of symbols: the toolchain's, then the modules'. -/
def symbolFolders (t : Toolchain) (modules : List Module) : Work (List Path) := do
  return t.symbolsDir :: (← (modules.map (·.symbolsDir)).filterM Work.isFolder)

/-- The linker's arguments. -/
def linkArguments (objects symbols : List Path) (region : String) (binary map : Path) :
    List String :=
  objects.map Path.text ++
    symbols.map (fun p => "-externals=" ++ p.text ++ "/" ++ region ++ ".txt") ++
    ["-output-kamek=" ++ binary.text, "-output-map=" ++ map.text]

/-- Links objects and gives the paths of the patch and its map. -/
def link (c : Compilation) (objects : List Path) (output : Path) : Work (Path × Path) := do
  Work.say (.info "Linking..." "link")
  let (binary, map) := Toolchain.outputPaths output c.region
  Work.makeFolders output
  let symbols ← symbolFolders c.toolchain c.modules
  let program := c.toolchain.linker (← get).windows
  let code ← Work.start program.text (linkArguments objects symbols c.region binary map)
  if code ≠ 0 then Work.fail (.linker code)
  return (binary, map)

end PatchForge
