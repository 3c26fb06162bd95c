import PatchForge.Declaration.Loading

/-!
# Code generation

For each extension point the template text is staged at its destination,
the modules' data is gathered, and the rendered text takes the template's
place. One extension point is finished before the next begins, and a
failure leaves what was written before.

All destinations of a templated extension point are known before any
file is touched.
-/

namespace PatchForge

/-- Puts a copy of a file at a path, instead of a file that was there. -/
def stageFile (source target : Path) : Work Unit := do
  if ← Work.exists? target then Work.unlink target
  Work.makeFolders target.parent
  Work.copyFile source target

/-- Takes in what the modules bring to an extension point, and what they grant to it. -/
def gather (p : ExtensionPoint) (modules : List Module) : Work (List Contribution) := do
  modify fun w => { w with grants := p.grant modules w.grants }
  return p.contributions modules

/-- Renders a staged file in place. -/
def renderInPlace (file : Path) (render : String → Except RenderFault String) : Work Unit := do
  let text ← Work.readExact file
  Work.writeText file (← Work.ofExcept .render (render text))

/-- Generates the file of a fixed extension point. -/
def generateFixed (modules : List Module) (m : Module) (p : ExtensionPoint) : Work Path := do
  let source ← declaredFile m.codegenDir p.source
  let target ← declaredFile m.folder p.destination
  stageFile source target
  let contributions ← gather p modules
  renderInPlace target fun text => renderFixed text p.name p.placeholders contributions
  return target

/-- Generates the file of one group. -/
def generateGroup (m : Module) (p : ExtensionPoint) (g : Group) : Work Path := do
  let target := m.folder.child g.destination
  stageFile (m.codegenDir.child g.source) target
  renderInPlace target fun text => renderGroup text p.name p.placeholders g.records
  return target

/-- Generates the files of a templated extension point. -/
def generateTemplated (modules : List Module) (m : Module) (p : ExtensionPoint)
    (sources destinations : List String) : Work (List Path) := do
  if sources.length ≠ destinations.length then
    Work.fail (.unevenTemplates p.name m.name sources.length destinations.length)
  let contributions ← gather p modules
  let gs ← Work.ofExcept .render (groups p.name p.formatPairs contributions)
  gs.mapM (generateGroup m p)

/-- Generates the files of an extension point, those named by data first. -/
def generatePoint (modules : List Module) (m : Module) (p : ExtensionPoint) :
    Work (List Path) := do
  let templated ← match p.templateSources, p.templateDestinations with
    | some sources, some destinations => generateTemplated modules m p sources destinations
    | _, _ => pure []
  let fixed ← if p.isFixed then List.singleton <$> generateFixed modules m p else pure []
  return templated ++ fixed

/-- Generates the files of a module's extension points. -/
def generateModule (modules : List Module) (verbose : Bool) (m : Module) :
    Work (List Path) := do
  Work.sayIf verbose (.info ("\"" ++ m.name ++ "\" requested CodeGen. Generating...") "gear")
  return (← m.extensionPoints.mapM (generatePoint modules m)).flatten

/-- The outcome of code generation. -/
structure Generation where
  files : List Path
  modules : Nat
  deriving DecidableEq, Inhabited

/-- Generates the files of all modules, granting include folders on the way. -/
def generateAll (modules : List Module) (verbose : Bool) : Work Generation := do
  let owners := modules.filter (·.hasExtensionPoints)
  let files ← owners.mapM (generateModule modules verbose)
  return ⟨files.flatten, owners.length⟩

/-- The same, starting from no grants. -/
def generateAfresh (modules : List Module) (verbose : Bool) : Work Generation := do
  modify fun w => { w with grants := .empty }
  generateAll modules verbose

end PatchForge
