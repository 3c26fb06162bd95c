import PatchForge.Toolchain
import PatchForge.Capability.Report

/-!
# Compilation

Two ways to turn modules into object files. Separate compilation gives
every source an object in its module's build folder, which is made anew.
A unit build includes the sources of all modules in one file and
compiles that.

The include folders of a module are the toolchain's, its own, those of
the modules whose capabilities it uses, and those granted to its
extension points.
-/

namespace PatchForge

/-- What a compilation is done with, and for. -/
structure Compilation where
  toolchain : Toolchain
  region : String
  modules : List Module

/-- The flags that modules declare, in order. -/
def moduleFlags (modules : List Module) : List String := modules.flatMap (·.flags)

namespace Compilation

/-- The flags that every source is compiled with. -/
def flags (c : Compilation) : List String := ("-D" ++ c.region) :: moduleFlags c.modules

/-! ## Include folders -/

/-- The include folders of the modules whose capabilities a module uses. -/
def dependencyFolders (m : Module) (others : List Module) : Work (List Path) := do
  let exporters ← Work.ofExcept .missingCapability (Capability.exportersFor others m)
  let candidates := exporters.flatMap fun e => [e.includeDir, e.codebuildExportDir]
  return IncludeTable.appendNew [] (← candidates.filterM Work.isFolder)

/-- The include folders that a module's sources are compiled with. -/
def includeFolders (c : Compilation) (m : Module) (others : List Module) : Work (List Path) := do
  let own := IncludeTable.appendNew []
    [c.toolchain.includeDir, m.includeDir, m.codebuildDir, m.codebuildExportDir]
  let dependencies ← dependencyFolders m others
  let granted := (← get).grants.forModule m
  return IncludeTable.appendNew (IncludeTable.appendNew own dependencies) granted

/-! ## Tasks -/

/-- A source and the object built from it. -/
abbrev Task := Path × Path

/-- The entries below a folder whose name ends with a suffix, in order. -/
def sourcesBelow (folder : Path) (suffix : String) : Work (List Path) := do
  return (← Work.below folder).filter fun p => suffix.toList.isSuffixOf p.name.toList

/-- The object of a source: its path below the source folder, in the build folder, with the
suffix of objects. -/
def objectOf (m : Module) (folder source : Path) : Path :=
  m.buildDir.join ((⟨.here, source.names.drop folder.names.length⟩ : Path).withSuffix ".o")

/-- The tasks of a module, compilations and assemblies apart. -/
structure Tasks where
  compilations : List Task := []
  assemblies : List Task := []
  deriving Inhabited

/-- The source of the task that builds an object. -/
def Tasks.owner? (t : Tasks) (object : Path) : Option Path :=
  ((t.compilations ++ t.assemblies).find? fun e => e.2 = object).map (·.1)

/-- Adds a task. No two tasks may build one object. -/
def Tasks.add (t : Tasks) (m : Module) (assembly : Bool) (source object : Path) :
    Except ToolchainFault Tasks :=
  match t.owner? object with
  | some first => .error (.sameObject m.name first source object)
  | none =>
    .ok (if assembly then { t with assemblies := t.assemblies ++ [(source, object)] }
      else { t with compilations := t.compilations ++ [(source, object)] })

/-- Adds the tasks of the sources with a suffix below a folder. -/
def Tasks.scan (m : Module) (folder : Path) (t : Tasks) (kind : String × Bool) : Work Tasks := do
  let sources ← sourcesBelow folder kind.1
  Work.ofExcept .toolchain <|
    sources.foldlM (fun t source => t.add m kind.2 source (objectOf m folder source)) t

/-- The kinds of sources, each by its suffix and whether it is assembled. -/
def sourceKinds : List (String × Bool) := [(".cpp", false), (".s", true)]

/-- Adds the tasks of the sources below a folder, if the folder is there. -/
def Tasks.scanFolder (m : Module) (t : Tasks) (folder : Path) : Work Tasks := do
  if ← Work.isFolder folder then sourceKinds.foldlM (Tasks.scan m folder) t else return t

/-- The tasks of a module. -/
def tasks (m : Module) : Work Tasks :=
  [m.sourceDir, m.codebuildDir].foldlM (Tasks.scanFolder m) {}

/-! ## Separate compilation -/

/-- Builds the objects of one module. Nothing is touched before all its tasks are known. -/
def compileModule (c : Compilation) (m : Module) (others : List Module) (flags : List String) :
    Work (List Path) := do
  let includes ← c.includeFolders m others
  let t ← tasks m
  if ← Work.exists? m.buildDir then Work.removeTree m.buildDir
  t.compilations.forM fun (source, object) =>
    c.toolchain.compile ⟨source, object, flags, includes⟩
  t.assemblies.forM fun (source, object) =>
    c.toolchain.assemble ⟨source, object, flags, includes⟩
  return (t.compilations ++ t.assemblies).map (·.2)

/-- Builds the objects of all modules, in link order. -/
def compileAll (c : Compilation) : Work (List Path) := do
  let objects ← (Capability.withOthers c.modules).mapM fun (m, others) =>
    c.compileModule m others c.flags
  return objects.flatten

/-! ## Unit build -/

/-- The file that includes all sources. -/
def unitName : String := "UniBuild.cpp"

/-- What a unit build includes: folders and sources. -/
structure UnitBuild where
  includes : List Path
  sources : List Path
  deriving Inhabited

/-- Takes a module into a unit build. Assembly cannot be part of one. -/
def UnitBuild.add (u : UnitBuild) (e : Module × List Module) : Work UnitBuild := do
  let (m, others) := e
  let includes := IncludeTable.appendNew u.includes [m.includeDir, m.codebuildDir]
  let includes := IncludeTable.appendNew includes (← dependencyFolders m others)
  let includes := IncludeTable.appendNew includes ((← get).grants.forModule m)
  if !(← Work.isFolder m.sourceDir) then return { u with includes }
  let sources ← sourcesBelow m.sourceDir ".cpp"
  if !(← sourcesBelow m.sourceDir ".s").isEmpty then
    Work.fail (.toolchain (.assemblyInUnit m.name))
  return ⟨includes, u.sources ++ sources⟩

/-- The text that includes sources. -/
def UnitBuild.text (u : UnitBuild) : String :=
  String.join (u.sources.map fun p => "#include \"" ++ p.text ++ "\"\n")

/-- What a unit build of all modules includes. -/
def unitBuild (c : Compilation) : Work UnitBuild :=
  (Capability.withOthers c.modules).foldlM UnitBuild.add ⟨[c.toolchain.includeDir], []⟩

/-- Compiles all modules as one source in an output folder. -/
def compileUnit (c : Compilation) (output : Path) : Work (List Path) := do
  let u ← c.unitBuild
  Work.makeFolders output
  let source := output.child unitName
  Work.writeText source u.text
  let object := source.withSuffix ".o"
  c.toolchain.compile ⟨source, object, c.flags, u.includes⟩
  return [object]

end Compilation

end PatchForge
