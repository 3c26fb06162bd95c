import PatchForge.BuildPlan
import PatchForge.Command.Arguments

/-!
# Commands

What the tool can be told to do. A command is read from its arguments
alone (`Command.ofArguments`); the folders that it names are looked at
afterwards (`Command.checkFolders`), since some must be there and none
may be a file.
-/

namespace PatchForge

inductive Command where
  | help
  | version
  /-- the whole build -/
  | build (settings : BuildPlan.Overrides)
  /-- a build as far as the generated files -/
  | codegen (folder : String)
  /-- checks of all modules -/
  | validate (folder : String)
  /-- the user's settings -/
  | config (shows : Bool) (toolchain : Option String)
  /-- a table of the modules' capabilities -/
  | list (folder : String)
  /-- a check that every required capability is exported -/
  | verify (folder : String)

namespace Command

/-- A command, or help if that is asked for. -/
def unlessHelp (g : Given) (command : Except UsageFault Command) : Except UsageFault Command :=
  if g.has helpSwitch.name then .ok .help else command

/-- The only operand, which names a modules folder. -/
def oneFolder (g : Given) (make : String → Command) : Except UsageFault Command :=
  match g.operands with
  | [] => .error (.operandMissing "MODULES_DIR")
  | [folder] => .ok (make folder)
  | _ :: extra :: _ => .error (.operandExtra extra)

def folderCommand (arguments : List String) (make : String → Command) :
    Except UsageFault Command := do
  let g ← take { switches := [] } arguments
  unlessHelp g (oneFolder g make)

def buildGrammar : Grammar where
  switches :=
    [{ name := "--syati", takesValue := true }, { name := "--unibuild", letter := some 'u' },
     { name := "--disc" }, { name := "--no-link" }]

/-- The settings that the options and operands of a build give. -/
def buildSettings (g : Given) : BuildPlan.Overrides where
  region := g.operands[0]?
  modulesFolder := g.operands[1]?
  outputFolder := g.operands[2]?
  toolchainFolder := g.value? "--syati"
  unit := g.flag? "--unibuild"
  copyDisc := g.flag? "--disc"
  link := if g.has "--no-link" then some false else none

def checkBuild (g : Given) : Except UsageFault Command := do
  if let some region := g.operands[0]? then
    if !regions.contains region then throw (.notChoice region regions)
  if let some extra := g.operands[3]? then throw (.operandExtra extra)
  return .build (buildSettings g)

def buildCommand (arguments : List String) : Except UsageFault Command := do
  let g ← take buildGrammar arguments
  unlessHelp g (checkBuild g)

def configGrammar : Grammar where
  switches := [{ name := "--show" }, { name := "--set-syati", takesValue := true }]

def configCommand (arguments : List String) : Except UsageFault Command := do
  let g ← take configGrammar arguments
  unlessHelp g <|
    match g.operands with
    | [] => .ok (.config (g.has "--show") (g.value? "--set-syati"))
    | extra :: _ => .error (.operandExtra extra)

/-- The command of a group, whose name is the first operand. Options of the group come before
it, and those that `early` knows end the matter. -/
def groupCommand (switches : List Switch) (early : Given → Option Command)
    (find : String → List String → Option (Except UsageFault Command)) (arguments : List String) :
    Except UsageFault Command := do
  let grammar : Grammar := ⟨switches, false⟩
  if arguments.isEmpty then throw .commandMissing
  let g ← take grammar arguments
  match early g, g.operands with
  | some command, _ => return command
  | none, [] => throw .commandMissing
  | none, name :: rest =>
    match find name rest with
    | some command => command
    | none =>
      if isOption name then
        if let some command := early (← take grammar (name :: rest)) then return command
      throw (.commandUnknown name)

/-- The first of the options that end a group's matter. -/
def early (commands : List (String × Command)) (g : Given) : Option Command :=
  g.options.findSome? fun o => List.lookup o.1 commands

def capabilityCommand (arguments : List String) : Except UsageFault Command :=
  groupCommand [] (early [("--help", .help)]) find arguments
where
  find (name : String) (rest : List String) : Option (Except UsageFault Command) :=
    match name with
    | "list" => some (folderCommand rest .list)
    | "verify" => some (folderCommand rest .verify)
    | _ => none

/-- The command that arguments give. -/
def ofArguments (arguments : List String) : Except UsageFault Command :=
  groupCommand [{ name := "--version" }] (early [("--version", .version), ("--help", .help)])
    find arguments
where
  find (name : String) (rest : List String) : Option (Except UsageFault Command) :=
    match name with
    | "build" => some (buildCommand rest)
    | "codegen" => some (folderCommand rest .codegen)
    | "validate" => some (folderCommand rest .validate)
    | "config" => some (configCommand rest)
    | "deps" => some (capabilityCommand rest)
    | _ => none

/-! ## Folders that commands name -/

/-- The folders that a command names, and whether each must be there. -/
def folders : Command → List (String × Bool)
  | .help | .version => []
  | .build s =>
    ([s.toolchainFolder, s.modulesFolder, s.outputFolder].filterMap id).map (·, false)
  | .codegen folder | .validate folder | .list folder | .verify folder => [(folder, true)]
  | .config _ toolchain => toolchain.toList.map (·, true)

/-- What lies at the path that a text denotes. A text that ends like the path of a folder denotes
no file. -/
def look (text : String) : Work (Option Entry) := do
  let path := Path.parse text
  if Work.hasNull path then Work.fail .nullCharacter
  if text = "" then return none
  let w ← get
  match w.disk.find w.here path with
  | .ok (_, .folder) => return some .folder
  | .ok (_, file) => return if endsLikeFolder text.toList.reverse then none else some file
  | .error _ => return none
where
  endsLikeFolder : List Char → Bool
    | '/' :: _ => true
    | '.' :: '/' :: _ => true
    | _ => false

/-- Why the first of some folders cannot be used. -/
def firstFault : List (String × Bool) → Work (Option UsageFault)
  | [] => pure none
  | (text, required) :: rest => do
    match ← look text with
    | some (.file _) => return some (.pathIsFile text)
    | some .folder => firstFault rest
    | none => if required then return some (.pathMissing text) else firstFault rest

/-- Why a folder that the command names cannot be used. -/
def checkFolders (c : Command) : Work (Option UsageFault) := firstFault c.folders

end Command

end PatchForge
