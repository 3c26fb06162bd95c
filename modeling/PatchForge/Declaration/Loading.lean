import PatchForge.Workshop

/-!
# Loading modules from their folders

A module's declaration is the JSON file in its folder. `loadModule` tells
apart a folder without one, a file that is no JSON, a value that is no
object and an object that is no declaration; each is a load failure that
names the file.
-/

namespace PatchForge

/-- The JSON value in a text. Texts that are no JSON are failures of their own kind; a value
that is too large is a failure of values. -/
def parseDeclaration (path : Path) (text : String) : Work Json :=
  match Json.parse text with
  | .ok v => pure v
  | .error f =>
    match f.reason with
    | .integerTooLong _ | .tooDeep => Work.fail (.json f)
    | _ => Work.fail (.load path (.format f))

/-- The module that a value read from `path` declares. -/
def declaredModule (path folder : Path) (v : Json) : Work Module :=
  match v with
  | .obj fields =>
    match Declaration.moduleOfFields fields folder with
    | .ok m => pure m
    | .error (.invalid cause) => Work.fail (.load path (.invalid cause))
    | .error (.misuse cause) => Work.fail (.misuse cause)
  | v => Work.fail (.load path (.notObject v.kind))

/-- The module in a folder. -/
def loadModule (folder : Path) : Work Module := do
  let folder ← Work.resolve folder
  let path := folder.child Module.declarationName
  if !(← Work.isFile path) then Work.fail (.load path (.missing folder.name))
  let v ← parseDeclaration path (← Work.readMarkedText path)
  declaredModule path folder v

/-- The path that a declared file name denotes as seen from a folder; only texts name files. -/
def declaredFile (folder : Path) (name : Json) : Work Path :=
  match name with
  | .str s => pure (folder.child s)
  | v => Work.fail (.misuse (.joined v.kind))

end PatchForge
