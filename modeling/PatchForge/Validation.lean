import PatchForge.Declaration.Loading

/-!
# Validation of a module folder

A validation collects what is wrong with a folder (errors) and what is
odd about it (warnings). A module is valid as long as there are no
errors.
-/

namespace PatchForge

structure Validation where
  errors : List String := []
  warnings : List String := []
  module : Option Module := none
  deriving Inhabited

namespace Validation

def isValid (v : Validation) : Bool := v.errors.isEmpty

def hasIssues (v : Validation) : Bool := !v.errors.isEmpty || !v.warnings.isEmpty

def addError (v : Validation) (text : String) : Validation :=
  { v with errors := v.errors ++ [text] }

def addWarning (v : Validation) (text : String) : Validation :=
  { v with warnings := v.warnings ++ [text] }

def summary (v : Validation) : String :=
  if v.isValid then
    if v.warnings.isEmpty then "✅ Module is valid"
    else "⚠️ Module is valid with " ++ Text.decimal v.warnings.length ++ " warning(s)"
  else "❌ Module is invalid with " ++ Text.decimal v.errors.length ++ " error(s)"

end Validation

/-! ## Extension points -/

def ExtensionPoint.label (p : ExtensionPoint) : String :=
  "Extension point '" ++ p.name ++ "'"

/-- An extension point must have a mode. -/
def checkMode (p : ExtensionPoint) (v : Validation) : Validation :=
  if p.isFixed || p.isTemplated then v
  else
    v.addError (p.label ++ " needs CodeGenSource/CodeGenDestination or " ++
      "CodeGenTemplateSources/CodeGenTemplateDestinations")

/-- The path of a file as seen from a module's folder. -/
def belowModule (m : Module) (p : Path) : Work Path :=
  match p.relativeTo? m.folder with
  | some q => pure q
  | none => Work.fail (.notBelow p m.folder)

/-- The template of a fixed extension point must be there. -/
def checkSource (m : Module) (p : ExtensionPoint) (v : Validation) : Work Validation := do
  if !p.isFixed then return v
  let source ← declaredFile m.codegenDir p.source
  if ← Work.isFile source then return v
  return v.addError (p.label ++ " template source not found: " ++ (← belowModule m source).text)

/-- Sources and destinations of templates come in pairs. -/
def checkTemplates (p : ExtensionPoint) (v : Validation) : Validation :=
  match p.templateSources, p.templateDestinations with
  | some sources, some destinations =>
    if sources.length = destinations.length then v
    else
      v.addError (p.label ++ " has a desynchronized template array (" ++
        Text.decimal sources.length ++ " : " ++ Text.decimal destinations.length ++ ")")
  | _, _ => v

/-- Placeholders without variables have nothing to show. -/
def checkVariables (p : ExtensionPoint) (v : Validation) : Validation :=
  if !p.placeholders.isEmpty && p.slots.isEmpty then
    v.addWarning (p.label ++ " declares placeholders but no Variables")
  else v

def checkPoint (m : Module) (v : Validation) (p : ExtensionPoint) : Work Validation := do
  let v ← checkSource m p (checkMode p v)
  return checkVariables p (checkTemplates p v)

/-! ## Folders -/

/-- Checks a module that could be loaded. -/
def validateLoaded (m : Module) : Work Validation := do
  let v ← m.extensionPoints.foldlM (checkPoint m) { module := some m }
  if ← Work.isFolder m.sourceDir then return v
  return v.addWarning "No source/ directory found; nothing to compile"

/-- The module in a folder, or the message of the load failure. -/
def loadOrMessage (folder : Path) : Work (Except String Module) := do
  try return .ok (← loadModule folder)
  catch
  | .load path fault => return .error (fault.message path)
  | f => Work.fail f

/-- Checks a module folder. A declaration that cannot be loaded is an error of the validation. -/
def validateFolder (folder : Path) : Work Validation := do
  if !(← Work.exists? folder) then
    return ({} : Validation).addError ("Module directory does not exist: " ++ folder.text)
  if !(← Work.isFolder folder) then
    return ({} : Validation).addError ("Module path is not a directory: " ++ folder.text)
  match ← loadOrMessage folder with
  | .ok m => validateLoaded m
  | .error text => return ({} : Validation).addError text

end PatchForge
