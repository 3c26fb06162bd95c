import PatchForge.Declaration.Basic
import PatchForge.Misuse

/-!
# Reading declarations

From the JSON value of a declaration to a module. Only the name is
required. Lists of texts take any values and keep their text; a string in
the place of such a list is refused, since its letters are never meant.

Data may come as one document or as several. Each document maps the name
of an extension point to records; the first document that names an
extension point decides its records (`dataOf`), and later ones are not
even looked at. Null fields are left out of a record.
-/

namespace PatchForge.Declaration

/-- Why a value is no declaration. -/
inductive Invalid where
  | nameMissing
  | pointNotObject (kind : String)
  | pointNameMissing
  | placeholder (point : String) (entry : Json)
  | textForList (text : String)
  | notList (kind : String)
  | dataNotObject (kind : String)
  | recordsNotList (point : String)
  | recordNotObject (point : String)

def Invalid.message : Invalid → String
  | .nameMissing => "Missing required field 'Name'"
  | .pointNotObject kind => "Extension point declaration must be an object, got " ++ kind
  | .pointNameMissing => "Missing required field 'Name' in extension point declaration"
  | .placeholder point entry =>
    "Invalid CodeGenData entry in extension point '" ++ point ++ "': " ++ entry.shown
  | .textForList text => "Expected a list of strings, got string '" ++ text ++ "'"
  | .notList kind => "Expected a list of strings, got " ++ kind
  | .dataNotObject kind => "ModuleData entries must be objects, got " ++ kind
  | .recordsNotList point => "ModuleData for '" ++ point ++ "' must be a list of objects"
  | .recordNotObject point => "ModuleData record for '" ++ point ++ "' must be an object"

/-- What keeps a value from being read as a declaration: it is refused, or it is used for what
its kind does not support. -/
inductive Fault where
  | invalid (cause : Invalid)
  | misuse (cause : Misuse)

/-! ## Lists -/

/-- The items of a value that is gone through: an array's items, a text's letters or an
object's names. A value that is not present has none. -/
def itemsOf (v : Json) : Except Fault (List Json) :=
  if !v.present then .ok []
  else
    match v with
    | .arr items => .ok items
    | .str s => .ok (s.toList.map fun c => .str (String.singleton c))
    | .obj fields => .ok (fields.map fun f => .str f.1)
    | v => .error (.misuse (.iterated v.kind))

/-- The texts of a list; null stands for absence. -/
def textsOf? : Json → Except Fault (Option (List String))
  | .null => .ok none
  | .str s => .error (.invalid (.textForList s))
  | .arr items => .ok (some (items.map Json.text))
  | v => .error (.invalid (.notList v.kind))

def textsOf (v : Json) : Except Fault (List String) :=
  (textsOf? v).map (·.getD [])

/-! ## Extension points -/

def placeholderOf (point : String) (entry : Json) : Except Fault Placeholder :=
  match entry with
  | .obj fields =>
    match Dict.get? fields "ReplaceTargetName" with
    | some name =>
      .ok ⟨name.text, (Json.fieldOrNull fields "ReplaceFormatData").textIfPresent⟩
    | none => .error (.invalid (.placeholder point entry))
  | _ => .error (.invalid (.placeholder point entry))

/-- The extension point that a declaration's entry describes. -/
def extensionPointOf (entry : Json) : Except Fault ExtensionPoint :=
  match entry with
  | .obj fields => do
    let field := Json.fieldOrNull fields
    let name := field "Name"
    if !name.present then throw (.invalid .pointNameMissing)
    let placeholders ← (← itemsOf (field "CodeGenData")).mapM (placeholderOf name.text)
    let templateSources ← textsOf? (field "CodeGenTemplateSources")
    let templateDestinations ← textsOf? (field "CodeGenTemplateDestinations")
    let slots ← textsOf (field "Variables")
    return {
      name := name.text
      source := field "CodeGenSource"
      destination := field "CodeGenDestination"
      templateSources, templateDestinations, slots, placeholders }
  | v => .error (.invalid (.pointNotObject v.kind))

/-! ## Data -/

/-- The text of a field's value; null has none. -/
def fieldText? : Json → Option String
  | .null => none
  | .bool true => some "true"
  | .bool false => some "false"
  | v => some v.text

/-- The record that a value of an extension point's list describes. -/
def recordOf (point : String) : Json → Except Fault Record
  | .obj fields => .ok (fields.filterMap fun f => (fieldText? f.2).map (f.1, ·))
  | _ => .error (.invalid (.recordNotObject point))

def recordsOf (point : String) : Json → Except Fault (List Record)
  | .arr items => items.mapM (recordOf point)
  | _ => .error (.invalid (.recordsNotList point))

/-- Adds a document's entries whose extension point has no records yet. -/
def addEntries : Dict String (List Record) → List (String × Json) →
    Except Fault (Dict String (List Record))
  | data, [] => .ok data
  | data, (point, value) :: rest =>
    if data.contains point then addEntries data rest
    else
      match recordsOf point value with
      | .ok records => addEntries (data ++ [(point, records)]) rest
      | .error f => .error f

def addDocuments : Dict String (List Record) → List Json →
    Except Fault (Dict String (List Record))
  | data, [] => .ok data
  | data, .obj fields :: rest =>
    match addEntries data fields with
    | .ok data => addDocuments data rest
    | .error f => .error f
  | _, v :: _ => .error (.invalid (.dataNotObject v.kind))

/-- The documents of a data value: none, one or a list. -/
def documentsOf : Json → List Json
  | .null => []
  | .arr items => items
  | v => [v]

/-- The records by extension point that a data value describes. -/
def dataOf (v : Json) : Except Fault (Dict String (List Record)) :=
  addDocuments [] (documentsOf v)

/-! ## Modules -/

/-- The module that the fields of a declaration describe. -/
def moduleOfFields (fields : Dict String Json) (folder : Path) : Except Fault Module := do
  let field := Json.fieldOrNull fields
  let name := field "Name"
  if !name.present then throw (.invalid .nameMissing)
  let extensionPoints ← (← itemsOf (field "ModuleExtensionDefinition")).mapM extensionPointOf
  let apiId := field "APIId"
  let games ← textsOf (field "SupportedGames")
  let required ← textsOf (field "ModuleDependancies")
  let optional ← textsOf (field "ModuleOptionalDependancies")
  let flags ← textsOf (field "CompilerFlags")
  let data ← dataOf (field "ModuleData")
  return {
    name := name.text
    folder
    author := field "Author"
    description := field "Description"
    exported := if apiId.present then some apiId else none
    games, required, optional, flags, extensionPoints, data
    exported_present := by split <;> simp [*] }

/-- The module in a folder that a declaration describes. -/
def moduleOf (declaration : Json) (folder : Path) : Except Fault Module :=
  match declaration with
  | .obj fields => moduleOfFields fields folder
  | v => .error (.misuse (.asked v.kind "get"))

end PatchForge.Declaration
