import PatchForge.Declaration.Basic
import PatchForge.Misuse

/-!
# Capabilities

A module may export one capability; modules name the capabilities they
require and those they use if present. An identifier is exported to a
module when another loaded module exports it: a module never serves
itself, so every question is asked of the other modules of the set.

`resolve` lists what a module can use, the required capabilities first.
`checkSet` looks for identifiers that two modules of a set share.
-/

namespace PatchForge

/-- Does the module export this capability? -/
def Module.exports (m : Module) (id : String) : Bool :=
  match m.exported with
  | some (.str s) => s = id
  | _ => false

namespace Capability

/-- The modules other than the one at position `i`. -/
def others (modules : List Module) (i : Nat) : List Module :=
  modules.eraseIdx i

/-- Each module with the modules other than it. -/
def withOthers (modules : List Module) : List (Module × List Module) :=
  modules.zipIdx.map fun e => (e.1, others modules e.2)

/-- The first module that exports a capability. -/
def exporter? (modules : List Module) (id : String) : Option Module :=
  modules.find? (·.exports id)

/-- A capability that a module requires and none of the others exports. -/
structure Missing where
  id : String
  requester : String
  deriving DecidableEq, Repr, Inhabited

def Missing.message (m : Missing) : String :=
  "API with ID \"" ++ m.id ++ "\" could not be found (required by module \"" ++ m.requester ++
    "\")"

/-- The module that exports a capability to a requester. -/
def require (others : List Module) (requester : Module) (id : String) :
    Except Missing Module :=
  match exporter? others id with
  | some m => .ok m
  | none => .error ⟨id, requester.name⟩

/-- Appends an identifier, unless the list has it. -/
def push (ids : List String) (id : String) : List String :=
  if ids.contains id then ids else ids ++ [id]

/-- Appends required capabilities, each of which must be exported. -/
def pushRequired (others : List Module) (requester : Module) :
    List String → List String → Except Missing (List String)
  | ids, [] => .ok ids
  | ids, id :: rest =>
    match require others requester id with
    | .ok _ => pushRequired others requester (push ids id) rest
    | .error e => .error e

/-- Appends those optional capabilities that are exported. -/
def pushOptional (others : List Module) : List String → List String → List String
  | ids, [] => ids
  | ids, id :: rest =>
    pushOptional others (if (exporter? others id).isSome then push ids id else ids) rest

/-- The capabilities that a module can use: the required ones in order, then the optional
ones that are exported, none twice. -/
def resolve (others : List Module) (m : Module) : Except Missing (List String) :=
  (pushRequired others m [] m.required).map fun ids => pushOptional others ids m.optional

/-- The modules that export what a module can use, in the order of `resolve`. -/
def exportersFor (others : List Module) (m : Module) : Except Missing (List Module) := do
  (← resolve others m).mapM (require others m)

/-- The capabilities of every module by its name, or the first one missing. -/
def verify (modules : List Module) : Except Missing (Dict String (List String)) := do
  let resolved ← (withOthers modules).mapM fun e => (resolve e.2 e.1).map (e.1.name, ·)
  return Dict.ofEntries resolved

/-! ## Identifiers of a set -/

/-- Two parts of a module set that share an identifier. -/
inductive Clash where
  | capability (id : Json) (first second : String)
  | extensionPoint (name first second : String)

def Clash.message : Clash → String
  | .capability id first second =>
    "API with ID \"" ++ id.text ++ "\" is exported by both \"" ++ first ++ "\" and \"" ++
      second ++ "\""
  | .extensionPoint name first second =>
    "Extension point \"" ++ name ++ "\" is declared by both \"" ++ first ++ "\" and \"" ++
      second ++ "\""

/-- Why a module set cannot be checked or is refused. -/
inductive SetFault where
  | clash (c : Clash)
  | misuse (cause : Misuse)

/-- The identifiers met so far, each with the module that it came from. -/
structure Seen where
  capabilities : List (Json × String)
  points : List (String × String)

/-- The module that a capability came from. -/
def Seen.exporter? (seen : Seen) (id : Json) : Option String :=
  (seen.capabilities.find? fun e => Json.sameScalar id e.1).map (·.2)

/-- Takes in the capability that a module exports. -/
def Seen.addCapability (seen : Seen) (m : Module) : Except SetFault Seen :=
  match m.exported with
  | none => .ok seen
  | some id =>
    if !id.isScalar then .error (.misuse (.keyed id.kind))
    else
      match seen.exporter? id with
      | some first => .error (.clash (.capability id first m.name))
      | none => .ok { seen with capabilities := seen.capabilities ++ [(id, m.name)] }

/-- Takes in the names of a module's extension points. -/
def Seen.addPoints (owner : String) : Seen → List ExtensionPoint → Except SetFault Seen
  | seen, [] => .ok seen
  | seen, p :: ps =>
    match List.lookup p.name seen.points with
    | some first => .error (.clash (.extensionPoint p.name first owner))
    | none => addPoints owner { seen with points := seen.points ++ [(p.name, owner)] } ps

def checkFrom : Seen → List Module → Except SetFault Unit
  | _, [] => .ok ()
  | seen, m :: ms =>
    match seen.addCapability m with
    | .error f => .error f
    | .ok seen =>
      match seen.addPoints m.name m.extensionPoints with
      | .error f => .error f
      | .ok seen => checkFrom seen ms

/-- Checks that no two modules export one capability and no two extension points share a
name. -/
def checkSet (modules : List Module) : Except SetFault Unit :=
  checkFrom ⟨[], []⟩ modules

end Capability

end PatchForge
