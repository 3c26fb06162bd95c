import PatchForge.BuildPlan
import PatchForge.Capability.Registry
import PatchForge.Disc
import PatchForge.Discovery
import PatchForge.Generation
import PatchForge.Linking

/-!
# Builds

A build goes through its phases in order and stops at the first
failure; nothing is undone. The set of modules is checked before
anything is written: identifiers must not clash, and every required
capability must be exported.
-/

namespace PatchForge

/-- What a build has made. -/
structure Build where
  modules : List String
  resolved : Dict String (List String)
  generated : List Path := []
  objects : List Path := []
  /-- the patch and its map, if they were linked -/
  linked : Option (Path × Path) := none
  discFiles : List Path := []
  deriving Inhabited

namespace Build

/-- What a build has made, in numbers. -/
structure Summary where
  modules : Nat
  generated : Nat
  objects : Nat
  binary : Option Path
  discFiles : Nat
  deriving Repr, Inhabited

def binary (b : Build) : Option Path := b.linked.map (·.1)

def summary (b : Build) : Summary where
  modules := b.modules.length
  generated := b.generated.length
  objects := b.objects.length
  binary := b.binary
  discFiles := b.discFiles.length

/-- The modules of a plan, whose identifiers do not clash, and what they resolve to. -/
def load (plan : BuildPlan) : Work (List Module × Dict String (List String)) := do
  Work.say (.info "Loading Modules..." "folder")
  let found ← discover (Path.parse (plan.modulesFolder.getD "")) true
  Work.say (.info (Text.decimal found.modules.length ++ " modules loaded!") none)
  Work.ofExcept .ofSet (Capability.checkSet found.modules)
  let resolved ← Work.ofExcept .missingCapability (Capability.verify found.modules)
  return (found.modules, resolved)

/-- Compiles modules in the way that the plan asks for. -/
def compile (plan : BuildPlan) (c : Compilation) (output : Path) : Work (List Path) :=
  if plan.unit then c.compileUnit output else c.compileAll

/-- Compiles, links and copies, as far as the plan goes. -/
def assemble (plan : BuildPlan) (modules : List Module) (b : Build) : Work Build := do
  let c : Compilation := ⟨plan.toolchain, plan.region.getD "", modules⟩
  let output := Path.parse (plan.outputFolder.getD "")
  let objects ← compile plan c output
  let linked ← if plan.link then some <$> PatchForge.link c objects output else pure none
  let discFiles ← if plan.copyDisc then copyAllDiscFiles modules output else pure []
  Work.say (.success "Complete!" "sparkles")
  return { b with objects, linked, discFiles }

/-- Carries out a plan, to the end or only as far as the generated files. -/
def run (plan : BuildPlan) (codegenOnly : Bool) : Work Build := do
  plan.check (!codegenOnly)
  let (modules, resolved) ← load plan
  let generation ← generateAfresh modules true
  let b : Build := { modules := modules.map (·.name), resolved, generated := generation.files }
  if codegenOnly then return b
  assemble plan modules b

end Build

end PatchForge
