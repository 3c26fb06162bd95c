import PatchForge.Capability.Registry
import PatchForge.Declaration.Reader
import PatchForge.Disk
import PatchForge.Json.Reader
import PatchForge.Rendering
import PatchForge.Text.Utf8
import PatchForge.Yaml.Fault

/-!
# Failures

Everything that can end a piece of work, by its cause, with the wording
of each. A failure is *reported* if the tool foresees it: such a failure
ends a command with a message. The others are faults of values and texts
that no command expects.
-/

namespace PatchForge

/-- Why a module folder gives no module. -/
inductive LoadFault where
  | missing (folder : String)
  | format (fault : Json.Located)
  | notObject (kind : String)
  | invalid (cause : Declaration.Invalid)

def LoadFault.message (path : Path) : LoadFault → String
  | .missing folder => "Missing " ++ Module.declarationName ++ " for module " ++ folder ++ "."
  | .format fault => "Invalid declaration format in " ++ path.text ++ ": " ++ fault.message
  | .notObject kind => Module.declarationName ++ " must contain an object, got " ++ kind
  | .invalid cause => "Invalid " ++ path.text ++ ": " ++ cause.message

/-- The regions that a build can be for. -/
def regions : List String := ["PAL", "USA", "JPN", "TWN", "KOR"]

/-- Why a build is not configured. -/
inductive ConfigurationFault where
  | malformed (path : Path)
  | notMapping (path : Path)
  | region (given : Option String)
  | toolchainFolder (given : Json)
  | noOutput
  | modulesFolder (given : Option String)

/-- A setting in a message. -/
def settingText (value : Option String) : String := value.getD "None"

def ConfigurationFault.message : ConfigurationFault → String
  | .malformed path =>
    "Invalid YAML format in " ++ path.text ++ ": " ++ Yaml.Fault.malformed.message
  | .notMapping path => path.text ++ " must contain a YAML object"
  | .region given =>
    "Invalid region " ++ settingText given ++ " (expected one of: " ++ ", ".intercalate regions ++
      ")"
  | .toolchainFolder given => "Syati folder not found: " ++ given.text
  | .noOutput => "No output folder given"
  | .modulesFolder given => "Modules folder not found: " ++ settingText given

/-- Why sources cannot be built. -/
inductive ToolchainFault where
  | notStarted (program : String) (error : DiskError)
  | notCompiled (source : Path)
  | notAssembled (source : Path)
  | sameObject (module : String) (first second object : Path)
  | assemblyInUnit (module : String)

/-- An error of the file tree, with what it is about. -/
def DiskError.message (error : DiskError) (subject : String) : String :=
  "[Errno " ++ Text.decimal error.number ++ "] " ++ error.text ++ ": " ++ subject

def ToolchainFault.message : ToolchainFault → String
  | .notStarted program error =>
    "Could not run " ++ program ++ ": " ++ error.message (Text.quoted program)
  | .notCompiled source => "Failed to compile \"" ++ source.text ++ "\""
  | .notAssembled source => "Failed to assemble \"" ++ source.text ++ "\""
  | .sameObject module first second object =>
    "Module \"" ++ module ++ "\": \"" ++ first.text ++ "\" and \"" ++ second.text ++
      "\" both compile to " ++ object.text
  | .assemblyInUnit module =>
    "UniBuild does not support assembly sources (module \"" ++ module ++ "\")"

/-- What ends a piece of work. -/
inductive Failure where
  | load (path : Path) (fault : LoadFault)
  | configuration (fault : ConfigurationFault)
  | clash (c : Capability.Clash)
  | missingCapability (m : Capability.Missing)
  | unevenTemplates (point module : String) (sources destinations : Nat)
  | render (fault : RenderFault)
  | toolchain (fault : ToolchainFault)
  | linker (exitCode : Int)
  | disk (error : DiskError) (path : Path)
  | notRemovable (path : Path)
  | sameFile (source target : Path)
  | utf8 (fault : Text.Utf8Fault)
  | json (fault : Json.Located)
  | yaml (fault : Yaml.Fault)
  | declaration (cause : Declaration.Invalid)
  | nullCharacter
  | notBelow (path base : Path)
  | misuse (cause : Misuse)

namespace Failure

/-- A path as an error of the file tree shows it where it acts on the path itself. -/
def object (path : Path) : String := "PosixPath(" ++ path.quoted ++ ")"

def message : Failure → String
  | .load path fault => fault.message path
  | .configuration fault => fault.message
  | .clash c => c.message
  | .missingCapability m => m.message
  | .unevenTemplates point module sources destinations =>
    "Module \"" ++ module ++ "\" has a desynchronized template array in extension point \"" ++
      point ++ "\". (" ++ Text.decimal sources ++ " : " ++ Text.decimal destinations ++ ")"
  | .render fault => fault.message
  | .toolchain fault => fault.message
  | .linker exitCode => "Linker failure (exit code " ++ Text.decimalInt exitCode ++ ")"
  | .disk error path => error.message path.quoted
  | .notRemovable path => DiskError.message .notFolder (object path)
  | .sameFile source target => object source ++ " and " ++ object target ++ " are the same file"
  | .utf8 fault => fault.message
  | .json fault => fault.message
  | .yaml fault => fault.message
  | .declaration cause => cause.message
  | .nullCharacter => "embedded null byte"
  | .notBelow path base =>
    path.quoted ++ " is not in the subpath of " ++ base.quoted ++
      " OR one path is relative and the other is absolute."
  | .misuse cause => cause.message

/-- Failures of the file tree. -/
def isDisk : Failure → Bool
  | .disk .. | .notRemovable _ | .sameFile .. => true
  | _ => false

/-- Failures that the tool raises for its own reasons. -/
def isOwn : Failure → Bool
  | .load .. | .configuration _ | .clash _ | .missingCapability _ | .unevenTemplates .. |
    .render _ | .toolchain _ | .linker _ => true
  | _ => false

/-- Failures that end a command with a message. -/
def isReported (f : Failure) : Bool :=
  f.isOwn || f.isDisk

/-- Failures of texts and values: bytes that are no text, texts that are no JSON, and the like. -/
def isOfValue : Failure → Bool
  | .utf8 _ | .declaration _ | .nullCharacter | .notBelow .. => true
  | .json fault => fault.reason != .tooDeep
  | .yaml fault => fault.isOfValue
  | _ => false

def ofDeclaration : Declaration.Fault → Failure
  | .invalid cause => .declaration cause
  | .misuse cause => .misuse cause

def ofSet : Capability.SetFault → Failure
  | .clash c => .clash c
  | .misuse cause => .misuse cause

end Failure

end PatchForge
