import PatchForge.Build
import PatchForge.Capability.Report
import PatchForge.Command.Basic
import PatchForge.UserConfig
import PatchForge.Validation
import PatchForge.Version

/-!
# Running commands

Each command is a piece of work that ends with an exit code: 0 if all
went well, 1 if something failed, 2 if its arguments make no sense. A
failure that the command foresees is said on the console; any other is
said on the channel for errors (`Command.run`).
-/

namespace PatchForge.Command

/-- Says a failure that is foreseen, which ends the command. -/
def reporting (foreseen : Failure → Bool) (before : String) (work : Work Nat) : Work Nat := do
  try work
  catch f =>
    if foreseen f then
      Work.say (.error (before ++ f.message) none)
      return 1
    else Work.fail f

/-! ## Building -/

/-- The plan with the stored toolchain folder, if it has none of its own. -/
def withStoredToolchain (p : BuildPlan) : Work BuildPlan := do
  if p.toolchainFolder.isNull then
    return { p with toolchainFolder := ← UserConfig.toolchainFolder }
  return p

def runBuild (settings : BuildPlan.Overrides) : Work Nat :=
  reporting Failure.isReported "Build failed: " do
    let plan ← BuildPlan.ofFile (Path.parse BuildPlan.fileName) settings
    let plan ← withStoredToolchain plan
    Work.sayIf plan.unit
      (.info "UniBuild enabled: compiling all modules as one translation unit" "hammer")
    let b ← Build.run plan false
    if let some path := b.binary then
      Work.say (.info ("Binary written to " ++ path.text) none)
    return 0

def runCodegen (folder : String) : Work Nat :=
  reporting Failure.isReported "Code generation failed: " do
    let b ← Build.run { modulesFolder := some folder } true
    for path in b.generated do
      Work.say (.info ("  • " ++ path.text) none)
    Work.say (.success ("Generated " ++ Text.decimal b.generated.length ++ " file(s)") "sparkles")
    return 0

/-! ## Validation -/

/-- Says what a module's validation found, and counts the errors. -/
def sayValidation (name : String) (v : Validation) : Work Nat := do
  Work.say (.info (name ++ ": " ++ v.summary) none)
  for text in v.errors do
    Work.say (.error ("  " ++ text) none)
  for text in v.warnings do
    Work.say (.warning ("  " ++ text) none)
  return v.errors.length

/-- Validates modules one by one, and counts the errors. -/
def validateEach : List Module → Work Nat
  | [] => pure 0
  | m :: ms => do
    let errors ← sayValidation m.name (← validateFolder m.folder)
    return errors + (← validateEach ms)

/-- Checks the modules as a set; a clash counts as an error. -/
def validateSet (modules : List Module) : Work Nat := do
  match Capability.checkSet modules with
  | .ok _ => return 0
  | .error (.clash c) =>
    Work.say (.error c.message none)
    return 1
  | .error f => Work.fail (.ofSet f)

/-- The modules of a folder, or the exit code after a failure that is foreseen. -/
def loadModules (folder : String) : Work (Except Nat (List Module)) := do
  try return .ok (← discover (Path.parse folder) false).modules
  catch f =>
    if f.isReported then
      Work.say (.error ("Failed to load modules: " ++ f.message) none)
      return .error 1
    else Work.fail f

def runValidate (folder : String) : Work Nat := do
  match ← loadModules folder with
  | .error code => return code
  | .ok modules =>
    let single ← validateEach modules
    let errors := single + (← validateSet modules)
    if errors ≠ 0 then
      Work.say (.error ("Validation failed with " ++ Text.decimal errors ++ " error(s)") none)
      return 1
    Work.say (.success
      ("All " ++ Text.decimal modules.length ++ " module(s) validated successfully!") "sparkles")
    return 0

/-! ## Settings -/

/-- Names in order. -/
def sortedFields (fields : List (String × Json)) : List (String × Json) :=
  fields.mergeSort fun a b => a.1 ≤ b.1

/-- A setting of a plan as a line. -/
def settingLines (p : BuildPlan) : List String :=
  let flag (b : Bool) := if b then "True" else "False"
  [("region", settingText p.region), ("syati_dir", p.toolchainFolder.text),
    ("modules_dir", settingText p.modulesFolder), ("output_dir", settingText p.outputFolder),
    ("unibuild", flag p.unit), ("copy_disc", flag p.copyDisc), ("link", flag p.link)].map
    fun e => "  " ++ e.1 ++ ": " ++ e.2

/-- The stored settings as lines. -/
def storedLines : Work (List String) := do
  match ← UserConfig.load with
  | .obj fields => return (sortedFields fields).map fun e => e.1 ++ ": " ++ e.2.text
  | v => Work.fail (.misuse (.asked v.kind "items"))

/-- The settings of the project file as lines, if there is one. -/
def projectLines : Work (List String) := do
  let path := Path.parse BuildPlan.fileName
  if !(← Work.exists? path) then return []
  return ["", BuildPlan.fileName ++ ":"] ++ settingLines (← BuildPlan.ofFile path {})

def showConfig : Work Unit := do
  let stored ← storedLines
  let project ← projectLines
  let lines := stored ++ project ++ ["", "Version: " ++ Version.builtIn]
  Work.print (Panel.lines ⟨"\n".intercalate lines, some "Current Configuration", "cyan"⟩)

def setToolchain (folder : String) : Work Unit := do
  UserConfig.setToolchainFolder folder
  let stored ← UserConfig.toolchainFolder
  Work.say (.success ("Default Syati folder set to " ++ stored.text) "check")

def runConfig (shows : Bool) (toolchain : Option String) : Work Nat :=
  reporting (fun f => f.isReported || f.isOfValue) "Error updating configuration: " do
    if let some folder := toolchain then setToolchain folder
    if shows then showConfig
    else if toolchain.isNone then
      Work.say (.info "Use --show to display configuration" none)
    return 0

/-! ## Capabilities -/

/-- Items with commas between them; a dash if there are none. -/
def cell (items : List String) : String :=
  let text := ", ".intercalate items
  if text = "" then "-" else text

/-- The exported capability in a table. -/
def exportCell (m : Module) : Work String :=
  Work.ofExcept .misuse (Table.cell (m.exported.getD (.str "-")))

/-- An optional capability with a mark for whether it is exported. -/
def optionalCell (node : Option Capability.Node) (id : String) : String :=
  let found := (node.map fun n => n.satisfiedOptional.contains id).getD false
  id ++ if found then " ✓" else " ✗"

def tableRow (r : Capability.Report) (m : Module) : Work (List String) := do
  return [m.name, ← exportCell m, cell m.required,
    cell (m.optional.map (optionalCell (r.node? m))), cell (m.extensionPoints.map (·.name))]

def runList (folder : String) : Work Nat :=
  reporting Failure.isReported "Error listing modules: " do
    let path := Path.parse folder
    let modules := (← discover path false).modules
    if modules.isEmpty then
      Work.say (.info ("No modules found in " ++ path.text) none)
      return 0
    let r ← Work.ofExcept .ofSet (Capability.report modules)
    Work.print (Table.ofRows "Modules" (← modules.mapM (tableRow r))).lines
    for text in r.errors do
      Work.say (.warning text "warning")
    return 0

def runVerify (folder : String) : Work Nat :=
  reporting Failure.isReported "Error verifying modules: " do
    let modules := (← discover (Path.parse folder) false).modules
    Work.ofExcept .ofSet (Capability.checkSet modules)
    let r ← Work.ofExcept .ofSet (Capability.report modules)
    if r.hasErrors then
      for text in r.errors do
        Work.say (.error text none)
      Work.say (.error ("Capability verification failed with " ++ Text.decimal r.errors.length ++
        " error(s)") none)
      return 1
    Work.say (.success ("All capabilities of " ++ Text.decimal modules.length ++
      " module(s) resolved") "check")
    return 0

/-! ## All commands -/

def usage : List String :=
  ["Usage: modbuild [--version] COMMAND [ARGS]...", "",
   "  build [REGION] [MODULES_DIR] [OUTPUT_DIR] [--syati DIR] [-u] [--disc] [--no-link]",
   "  codegen MODULES_DIR", "  validate MODULES_DIR", "  config [--show] [--set-syati DIR]",
   "  deps list MODULES_DIR", "  deps verify MODULES_DIR"]

/-- Carries out a command whose folders have been looked at. -/
def perform : Command → Work Nat
  | .help => do
    Work.print usage
    return 0
  | .version => do
    Work.print [Version.banner Version.builtIn]
    return 0
  | .build settings => runBuild settings
  | .codegen folder => runCodegen folder
  | .validate folder => runValidate folder
  | .config shows toolchain => runConfig shows toolchain
  | .list folder => runList folder
  | .verify folder => runVerify folder

/-- Says why arguments make no command. -/
def refuse (f : UsageFault) : Work Nat := do
  Work.complain ("Error: " ++ f.message)
  return 2

/-- Runs the tool with arguments and gives the exit code. -/
def run (arguments : List String) : Work Nat := do
  try
    match ofArguments arguments with
    | .error f => refuse f
    | .ok command =>
      match ← command.checkFolders with
      | some f => refuse f
      | none => command.perform
  catch f =>
    Work.complain ("Error: " ++ f.message)
    return 1

end PatchForge.Command
