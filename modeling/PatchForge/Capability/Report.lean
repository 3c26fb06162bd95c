import PatchForge.Capability.Registry

/-!
# Capability reports

How the capabilities of a whole module set resolve: unlike `verify`, a
report goes on after a missing capability and collects every message.
Its nodes are kept by the folder of their module.
-/

namespace PatchForge.Capability

/-- How one module's capabilities resolved; nothing is listed as resolved where a required
one is missing. -/
structure Node where
  module : Module
  resolved : List String
  missingOptional : List String
  deriving Inhabited

/-- The optional capabilities that the module can use. -/
def Node.satisfiedOptional (n : Node) : List String :=
  n.module.optional.filter n.resolved.contains

structure Report where
  nodes : Dict String Node
  exporters : List (Json × String)
  errors : List String
  deriving Inhabited

def nodeOf (others : List Module) (m : Module) : Node where
  module := m
  resolved := (resolve others m).toOption.getD []
  missingOptional := m.optional.filter fun id => (exporter? others id).isNone

def Report.hasErrors (r : Report) : Bool :=
  !r.errors.isEmpty

/-- The node under a module's folder. -/
def Report.node? (r : Report) (m : Module) : Option Node :=
  r.nodes.get? m.folder.text

/-- The capabilities that modules export, each with the first module that does. -/
def exportersOf : List (Json × String) → List Module → Except SetFault (List (Json × String))
  | found, [] => .ok found
  | found, m :: ms =>
    match m.exported with
    | none => exportersOf found ms
    | some id =>
      if !id.isScalar then .error (.misuse (.keyed id.kind))
      else if found.any fun e => Json.sameScalar id e.1 then exportersOf found ms
      else exportersOf (found ++ [(id, m.name)]) ms

/-- The message for a module whose required capabilities are not all exported. -/
def error? (others : List Module) (m : Module) : Option String :=
  match resolve others m with
  | .ok _ => none
  | .error e => some e.message

/-- The report of a module set. -/
def report (modules : List Module) : Except SetFault Report := do
  let exporters ← exportersOf [] modules
  let all := withOthers modules
  return {
    nodes := Dict.ofEntries (all.map fun e => (e.1.folder.text, nodeOf e.2 e.1))
    exporters
    errors := all.filterMap fun e => error? e.2 e.1 }

end PatchForge.Capability
