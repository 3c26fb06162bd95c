import PatchForge.Toolchain
import PatchForge.Yaml.Document

/-!
# What a build is to do

A plan says for which region to build, with which folders and how far.
It starts from the defaults, takes the settings of a project file and is
overridden by what the user asks for: each layer changes the settings
that it names and no others.

`BuildPlan.check` refuses a plan before any work is done.
-/

namespace PatchForge

/-- What a build is to do. The toolchain folder may come from the user's stored settings, which
hold any JSON value; null stands for absence. -/
structure BuildPlan where
  region : Option String := none
  toolchainFolder : Json := .null
  modulesFolder : Option String := none
  outputFolder : Option String := none
  /-- compile all modules as one source -/
  unit : Bool := false
  copyDisc : Bool := false
  link : Bool := true
  deriving Inhabited

/-- Settings that override others where they are given. -/
structure BuildPlan.Overrides where
  region : Option String := none
  toolchainFolder : Option String := none
  modulesFolder : Option String := none
  outputFolder : Option String := none
  unit : Option Bool := none
  copyDisc : Option Bool := none
  link : Option Bool := none
  deriving Inhabited

namespace BuildPlan

/-- The plan with other settings where they are given. -/
def override (p : BuildPlan) (o : Overrides) : BuildPlan where
  region := o.region.or p.region
  toolchainFolder := (o.toolchainFolder.map .str).getD p.toolchainFolder
  modulesFolder := o.modulesFolder.or p.modulesFolder
  outputFolder := o.outputFolder.or p.outputFolder
  unit := o.unit.getD p.unit
  copyDisc := o.copyDisc.getD p.copyDisc
  link := o.link.getD p.link

/-! ## Project files -/

/-- The usual name of a project file. -/
def fileName : String := "modbuild.yml"

/-- The part of a project file that holds settings of the build. -/
def sectionName : String := "build"

/-- Does a text occur in another? -/
def occursIn (part : List Char) : List Char → Bool
  | [] => part.isEmpty
  | c :: cs => part.isPrefixOf (c :: cs) || occursIn part cs

/-- The value of a setting in a section. A section that is no mapping has no settings, and none
may seem to be there. -/
def setting? (d : Yaml.Document) (settings : Yaml.Value) (key : String) :
    Except Misuse (Option Yaml.Value) :=
  match settings with
  | .collection ref =>
    match d.find ref with
    | .mapping entries => .ok (Dict.get? entries (.text key))
    | .sequence items =>
      if items.contains (.scalar (.text key)) then .error .listIndexed else .ok none
    | .set members => if members.contains (.text key) then .error (.indexed "set") else .ok none
    | .pairs _ => .ok none
  | .scalar (.text s) =>
    if occursIn key.toList s.toList then .error .textIndexed else .ok none
  | .scalar (.bytes _) => .error .bytesSearched
  | .scalar s => .error (.searched s.kind)

/-- The text of a setting. -/
def textSetting? (d : Yaml.Document) (settings : Yaml.Value) (key : String) :
    Except Failure (Option String) := do
  match ← (setting? d settings key).mapError .misuse with
  | none => return none
  | some v => return some (← (d.asText v).mapError .yaml)

/-- A setting as a switch: off if it is null, false, zero or empty. -/
def switchSetting? (d : Yaml.Document) (settings : Yaml.Value) (key : String) :
    Except Failure (Option Bool) :=
  ((setting? d settings key).map (·.map d.present)).mapError .misuse

/-- The settings that a section gives. -/
def overridesOf (d : Yaml.Document) (settings : Yaml.Value) : Except Failure Overrides := do
  let region ← textSetting? d settings "region"
  let toolchainFolder ← textSetting? d settings "syati_dir"
  let modulesFolder ← textSetting? d settings "modules_dir"
  let outputFolder ← textSetting? d settings "output_dir"
  let unit ← switchSetting? d settings "unibuild"
  let copyDisc ← switchSetting? d settings "copy_disc"
  let link ← switchSetting? d settings "link"
  return { region, toolchainFolder, modulesFolder, outputFolder, unit, copyDisc, link }

/-- The settings of a project file. Neither a file nor a section that is not present gives any. -/
def fileOverrides (path : Path) (d : Yaml.Document) : Except Failure Overrides :=
  if !d.present d.root then .ok {}
  else
    match d.entries? d.root with
    | none => .error (.configuration (.notMapping path))
    | some entries =>
      match entries.get? (.text sectionName) with
      | some settings => if d.present settings then overridesOf d settings else .ok {}
      | none => .ok {}

/-- What a YAML file writes. -/
def readYaml (path : Path) : Work Yaml.Document := do
  match Yaml.Document.ofSource (Yaml.Source.ofBytes (← Work.readBytes path)) with
  | .ok d => return d
  | .error .malformed => Work.fail (.configuration (.malformed path))
  | .error (.undecodable f) => Work.fail (.utf8 f)
  | .error f => Work.fail (.yaml f)

/-- The plan of a project file, which need not be there, under overrides. -/
def ofFile (path : Path) (overrides : Overrides) : Work BuildPlan := do
  let plan : BuildPlan := {}
  if ← Work.exists? path then
    let own ← Work.ofExcept id (fileOverrides path (← readYaml path))
    return (plan.override own).override overrides
  return plan.override overrides

/-! ## Checking -/

/-- Is there a folder of that name? An empty name is none. -/
def namesFolder (name : String) : Work Bool :=
  if name = "" then pure false else Work.isFolder (Path.parse name)

/-- Is the toolchain folder there? -/
def hasToolchain (p : BuildPlan) : Work Bool :=
  match p.toolchainFolder with
  | .str s => namesFolder s
  | v => if v.present then Work.fail (.misuse (.located v.kind)) else pure false

/-- Checks what is needed to compile and link. -/
def checkToolchain (p : BuildPlan) : Work Unit := do
  if !((p.region.map Toolchain.isRegion).getD false) then
    Work.fail (.configuration (.region p.region))
  if !(← p.hasToolchain) then Work.fail (.configuration (.toolchainFolder p.toolchainFolder))
  if p.outputFolder.getD "" = "" then Work.fail (.configuration .noOutput)

/-- Refuses a plan that cannot be carried out; what only compiling needs is checked only if it is
required. -/
def check (p : BuildPlan) (requiresToolchain : Bool) : Work Unit := do
  if requiresToolchain then p.checkToolchain
  if !(← namesFolder (p.modulesFolder.getD "")) then
    Work.fail (.configuration (.modulesFolder p.modulesFolder))

/-- The toolchain of a checked plan. -/
def toolchain (p : BuildPlan) : Toolchain := ⟨Path.parse p.toolchainFolder.text⟩

end BuildPlan

end PatchForge
