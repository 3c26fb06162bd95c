import PatchForge.Yaml.Node

/-!
# Merging mappings

An entry under a merge key stands for the entries of the mappings that it
names. `flatten` takes such entries out of a mapping and puts what they
stand for in front of the mapping's own entries, where these override
them; of several mappings in one sequence the first comes last, and so
wins. The mappings that come in are flattened first.

A mapping may merge itself, straight or through others. Its merge entry is
gone by the time it is flattened again, so the entries left come in twice
and nothing runs on for ever: each call inside another has one merge entry
less before it.
-/

namespace PatchForge.Yaml

/-- Work on the nodes of a document, which changes them in place. -/
abbrev Edit (α : Type) := StateT (Array Node) (Except Fault) α

namespace Node

/-- The number of calls that can be open in one another. -/
def callLimit : Nat := 980

def fetch (ref : Ref) : Edit Node := do
  return (← get).getD ref default

def put (ref : Ref) (n : Node) : Edit Unit :=
  modify fun nodes => nodes.setIfInBounds ref n

/-- The entries of a mapping; other nodes have none. -/
def entries : Node → List (Ref × Ref)
  | .mapping _ entries => entries
  | _ => []

/-- A mapping with other entries. -/
def withEntries (entries : List (Ref × Ref)) : Node → Node
  | .mapping tag _ => .mapping tag entries
  | n => n

def isMapping : Node → Bool
  | .mapping .. => true
  | _ => false

/-- The entries of a mapping once it is flattened. -/
def flattened (flatten : Ref → Edit Unit) (ref : Ref) : Edit (List (Ref × Ref)) := do
  if !(← fetch ref).isMapping then throw .malformed
  flatten ref
  return (← fetch ref).entries

/-- The entries that a merge key's value stands for. -/
def incoming (flatten : Ref → Edit Unit) (value : Ref) : Edit (List (Ref × Ref)) := do
  match ← fetch value with
  | .sequence _ items => return (← items.mapM (flattened flatten)).reverse.flatten
  | _ => flattened flatten value

/-- Looks at the entries of a mapping from a position on: takes out those under merge keys, and
makes the key of a mapping's own value a text. `found` are the entries that came in so far. -/
def flattenFrom (flatten : Ref → Edit Unit) (ref : Ref) :
    Nat → Nat → List (Ref × Ref) → Edit Unit
  | 0, _, found => do
    let n ← fetch ref
    put ref (n.withEntries (found ++ n.entries))
  | fuel + 1, i, found => do
    let n ← fetch ref
    match n.entries[i]? with
    | none => flattenFrom flatten ref fuel i found
    | some (key, value) =>
      let k ← fetch key
      if k.tag = .merge then
        put ref (n.withEntries (n.entries.eraseIdx i))
        let new ← incoming flatten value
        flattenFrom flatten ref fuel i (found ++ new)
      else
        if k.tag = .default then put key (k.withTag .text)
        flattenFrom flatten ref fuel (i + 1) found

/-- Flattens a mapping with at most so many calls in one another. -/
def flattenWithin : Nat → Ref → Edit Unit
  | 0, _ => throw .nested
  | calls + 1, ref => do
    flattenFrom (flattenWithin calls) ref (← fetch ref).entries.length 0 []

def flatten (ref : Ref) : Edit Unit := flattenWithin callLimit ref

end Node

end PatchForge.Yaml
