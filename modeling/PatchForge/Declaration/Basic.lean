import PatchForge.Json.Value
import PatchForge.Path

/-!
# Modules and extension points

A module is a folder of sources with a declaration: what it is called,
the capability it exports and those it needs, and its part in code
generation. As the owner of extension points it says how files are made
from data; as a contributor it brings records to the extension points of
any module.
-/

namespace PatchForge

/-- Data that a module brings to an extension point: the texts of its fields, in order. -/
abbrev Record := Dict String String

/-- A marker in a template text and the format of what replaces it. -/
structure Placeholder where
  name : String
  format : String
  deriving DecidableEq, Repr, Inhabited

/-- The marker as it stands in a template text. -/
def Placeholder.token (p : Placeholder) : String :=
  "\x7b\x7b" ++ p.name ++ "\x7d\x7d"

def Placeholder.text (p : Placeholder) : String :=
  p.name ++ " (" ++ p.format ++ ")"

/-- A hook that one module declares and others bring data to. The names of its files are as
declared: `source` and `destination` may hold any value, null standing for absence. -/
structure ExtensionPoint where
  name : String
  source : Json
  destination : Json
  templateSources : Option (List String)
  templateDestinations : Option (List String)
  /-- the fields that records are cut down to, in order -/
  slots : List String
  placeholders : List Placeholder
  deriving Inhabited

namespace ExtensionPoint

/-- Writes one file whose name is declared. -/
def isFixed (p : ExtensionPoint) : Bool :=
  !p.source.isNull && !p.destination.isNull

/-- Writes files whose names come from the data. -/
def isTemplated (p : ExtensionPoint) : Bool :=
  p.templateSources.isSome && p.templateDestinations.isSome

def text (p : ExtensionPoint) : String :=
  p.name ++ ", " ++ p.source.text

end ExtensionPoint

/-- A module: where it lies and what it declares. -/
structure Module where
  name : String
  folder : Path
  author : Json
  description : Json
  /-- The capability that the module exports. A value that is not present exports nothing. -/
  exported : Option Json
  games : List String
  required : List String
  optional : List String
  flags : List String
  extensionPoints : List ExtensionPoint
  data : Dict String (List Record)
  exported_present : exported.all Json.present = true := by decide

namespace Module

instance : Inhabited Module :=
  ⟨{ name := "", folder := default, author := default, description := default, exported := none,
     games := [], required := [], optional := [], flags := [], extensionPoints := [],
     data := [] }⟩

/-- The file that holds a module's declaration. -/
def declarationName : String := "ModuleInfo.json"

/-- The records that the module brings to an extension point. -/
def contributions (m : Module) (point : String) : List Record :=
  (m.data.get? point).getD []

def hasExtensionPoints (m : Module) : Bool :=
  !m.extensionPoints.isEmpty

/-! ## Folders of a module -/

def includeDir (m : Module) : Path := m.folder.child "include"

def sourceDir (m : Module) : Path := m.folder.child "source"

/-- Template texts, from which files are generated. -/
def codegenDir (m : Module) : Path := m.folder.child "codegen"

/-- Generated sources. -/
def codebuildDir (m : Module) : Path := m.folder.child "codebuild"

/-- Generated headers for modules that use this one. -/
def codebuildExportDir (m : Module) : Path := m.folder.child "codebuildexport"

def symbolsDir (m : Module) : Path := m.folder.child "symbols"

/-- Object files. -/
def buildDir (m : Module) : Path := m.folder.child "build"

/-- Files that go into the output folder as they are. -/
def discDir (m : Module) : Path := m.folder.child "disc"

/-- What the module says about itself. -/
def text (m : Module) : String :=
  "=== Module Information ===\nName: " ++ m.name ++ "\nAuthor(s): " ++ m.author.textIfPresent ++
    "\n\n" ++ m.description.textIfPresent ++ "\n--------------------------"

end Module

end PatchForge
