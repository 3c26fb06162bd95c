import PatchForge.Dict
import PatchForge.Yaml.Resolution
import PatchForge.Yaml.Token

/-!
# The nodes of a YAML text

A YAML text of one document is made of scalars, sequences and mappings.
A node may be named by an anchor and stand again wherever a reference
gives its name, also inside itself. So nodes have numbers, and a
collection holds the numbers of its parts: a node that stands in two
places is one node, and what is done to it is seen in both.

The reader takes tokens one by one. Fuel bounds it: every call either
uses up a token or is the last of at most three that do not.
-/

namespace PatchForge.Yaml

/-- A node by its number. -/
abbrev Ref := Nat

inductive Node where
  | scalar (tag : Tag) (text : String)
  | sequence (tag : Tag) (items : List Ref)
  | mapping (tag : Tag) (entries : List (Ref × Ref))
  deriving Inhabited

namespace Node

def tag : Node → Tag
  | .scalar t _ => t
  | .sequence t _ => t
  | .mapping t _ => t

def withTag (t : Tag) : Node → Node
  | .scalar _ text => .scalar t text
  | .sequence _ items => .sequence t items
  | .mapping _ entries => .mapping t entries

/-- The number of collections that can be kept open in one another. Each takes two of the thousand
calls that can be under way; the other 26 are those of the parser and of a caller that reads a
project file from the top of a command. A caller further down has so many fewer. -/
def depthLimit : Nat := 487

/-- The tokens left, the nodes read so far, those among them that have names, the handles of tags,
and how many collections are open. -/
structure Reader where
  tokens : List Token
  nodes : Array Node := #[]
  anchors : Dict String Ref := []
  handles : Dict String String := []
  depth : Nat := 0

abbrev Read (α : Type) := StateT Reader (Except Fault) α

def fail {α : Type} : Read α := throw .malformed

/-- The next token, if any is left. -/
def peek : Read (Option Token) := do
  match (← get).tokens.head? with
  | some (.broken fault) => throw fault
  | t => return t

/-- Steps over a token. -/
def skip : Read Unit := modify fun r => { r with tokens := r.tokens.tail }

/-- Does one of some tokens come next? -/
def sees (tokens : List Token) : Read Bool := do
  match ← peek with
  | some t => return tokens.contains t
  | none => return false

/-- Steps over a token that must come. -/
def expect (t : Token) : Read Unit := do
  if ← sees [t] then skip else fail

/-! ## Properties of nodes -/

/-- The anchor and the tag before a node. -/
structure Properties where
  anchor : Option String := none
  tag : Option (Option String × String) := none

def anchor? : Read (Option String) := do
  match ← peek with
  | some (.anchor name) =>
    skip
    return some name
  | _ => return none

def tag? : Read (Option (Option String × String)) := do
  match ← peek with
  | some (.tag handle suffix) =>
    skip
    return some (handle, suffix)
  | _ => return none

/-- An anchor and a tag, in either order and each at most once. -/
def properties : Read Properties := do
  match ← anchor? with
  | some a => return ⟨some a, ← tag?⟩
  | none =>
    match ← tag? with
    | some tag => return ⟨← anchor?, some tag⟩
    | none => return {}

/-- The full name of a tag. -/
def tagName : Option String × String → Read String
  | (none, suffix) => pure suffix
  | (some handle, suffix) => do
    match (← get).handles.get? handle with
    | some start => return start ++ suffix
    | none => fail

/-- Adds a node under the next number, and names it. A name is given once. -/
def add (anchor : Option String) (node : Node) : Read Ref := do
  let r ← get
  let ref := r.nodes.size
  set { r with nodes := r.nodes.push node }
  if let some name := anchor then
    if r.anchors.contains name then fail
    modify fun r => { r with anchors := r.anchors.set name ref }
  return ref

/-- An empty scalar, which stands where a node is left out. -/
def empty : Read Ref := add none (.scalar .null "")

/-- Reads the parts of a collection, which has its number before they have theirs. -/
def collection (anchor : Option String) (begun : Node) (rest : Read Node) : Read Ref := do
  let ref ← add anchor begun
  if depthLimit ≤ (← get).depth then throw .nested
  modify fun r => { r with depth := r.depth + 1 }
  let node ← rest
  modify fun r => { r with depth := r.depth - 1, nodes := r.nodes.setIfInBounds ref node }
  return ref

/-- The tag of a collection: its own, else the usual one. -/
def collectionTag (usual : Tag) : Option String → Tag
  | none => usual
  | some "!" => usual
  | some name => Tag.ofName name

/-- The tag of a scalar. Without one of its own a plain scalar means what its form says. -/
def scalarTag (text : String) (plain : Bool) : Option String → Tag
  | none => if plain then Tag.ofPlain text else .text
  | some "!" => Tag.ofPlain text
  | some name => Tag.ofName name

/-! ## Nodes -/

mutual

/-- A node. Block collections may come only if `block`, and items without an indentation of
their own only if `items`. -/
def node (block items : Bool) : Nat → Read Ref
  | 0 => fail
  | fuel + 1 => do
    match ← peek with
    | some (.reference name) =>
      skip
      match (← get).anchors.get? name with
      | some n => return n
      | none => fail
    | _ =>
      let p ← properties
      let tag ← p.tag.mapM tagName
      content block items p.anchor tag fuel

/-- A node after its anchor and tag. -/
def content (block items : Bool) (anchor tag : Option String) : Nat → Read Ref
  | 0 => fail
  | fuel + 1 => do
    let sequence (rest : Read (List Ref)) : Read Ref :=
      let make := Node.sequence (collectionTag .sequence tag)
      collection anchor (make []) (make <$> rest)
    let mapping (rest : Read (List (Ref × Ref))) : Read Ref :=
      let make := Node.mapping (collectionTag .mapping tag)
      collection anchor (make []) (make <$> rest)
    match ← peek with
    | some (.scalar text plain) =>
      skip
      add anchor (.scalar (scalarTag text plain tag) text)
    | some .flowSequence =>
      skip
      sequence (flowItems true fuel)
    | some .flowMapping =>
      skip
      mapping (flowEntries true fuel)
    | some .item => if items then sequence (openItems fuel) else missing anchor tag
    | some .blockSequence =>
      if block then do
        skip
        sequence (blockItems fuel)
      else missing anchor tag
    | some .blockMapping =>
      if block then do
        skip
        mapping (blockEntries fuel)
      else missing anchor tag
    | _ => missing anchor tag

/-- A node that is left out: it needs an anchor or a tag. -/
def missing (anchor tag : Option String) : Read Ref := do
  if anchor.isNone && tag.isNone then fail
  add anchor (.scalar (scalarTag "" (tag = none || tag = some "!") tag) "")

/-- A node, or an empty scalar if one of some tokens comes instead. -/
def nodeUnless (stops : List Token) (block items : Bool) : Nat → Read Ref
  | 0 => fail
  | fuel + 1 => do
    if ← sees stops then return ← empty
    node block items fuel

/-- The items of a block sequence, its end included. -/
def blockItems : Nat → Read (List Ref)
  | 0 => fail
  | fuel + 1 => do
    if ← sees [.item] then
      skip
      let n ← nodeUnless [.item, .blockEnd] true false fuel
      return n :: (← blockItems fuel)
    expect .blockEnd
    return []

/-- The items of a sequence that is indented like the mapping around it. -/
def openItems : Nat → Read (List Ref)
  | 0 => fail
  | fuel + 1 => do
    if ← sees [.item] then
      skip
      let n ← nodeUnless [.item, .key, .value, .blockEnd] true false fuel
      return n :: (← openItems fuel)
    return []

/-- The value of an entry in a block mapping. -/
def blockValue : Nat → Read Ref
  | 0 => fail
  | fuel + 1 => do
    if ← sees [.value] then
      skip
      nodeUnless [.key, .value, .blockEnd] true true fuel
    else empty

/-- The entries of a block mapping, its end included. -/
def blockEntries : Nat → Read (List (Ref × Ref))
  | 0 => fail
  | fuel + 1 => do
    if ← sees [.key] then
      skip
      let k ← nodeUnless [.key, .value, .blockEnd] true true fuel
      let v ← blockValue fuel
      return (k, v) :: (← blockEntries fuel)
    expect .blockEnd
    return []

/-- The value of an entry between brackets or braces, which the closing one ends. -/
def flowValue (close : Token) : Nat → Read Ref
  | 0 => fail
  | fuel + 1 => do
    if ← sees [.value] then
      skip
      nodeUnless [.comma, close] false false fuel
    else empty

/-- The items between brackets, the closing one included. An entry among them is a mapping of
its own. -/
def flowItems (first : Bool) : Nat → Read (List Ref)
  | 0 => fail
  | fuel + 1 => do
    if ← sees [.flowSequenceEnd] then
      skip
      return []
    if !first then expect .comma
    if ← sees [.key] then
      let entry ← collection none (.mapping .mapping []) do
        skip
        let k ← nodeUnless [.value, .comma, .flowSequenceEnd] false false fuel
        let v ← flowValue .flowSequenceEnd fuel
        return .mapping .mapping [(k, v)]
      return entry :: (← flowItems false fuel)
    if ← sees [.flowSequenceEnd] then
      skip
      return []
    let n ← node false false fuel
    return n :: (← flowItems false fuel)

/-- The entries between braces, the closing one included. -/
def flowEntries (first : Bool) : Nat → Read (List (Ref × Ref))
  | 0 => fail
  | fuel + 1 => do
    if ← sees [.flowMappingEnd] then
      skip
      return []
    if !first then expect .comma
    if ← sees [.key] then
      skip
      let k ← nodeUnless [.value, .comma, .flowMappingEnd] false false fuel
      let v ← flowValue .flowMappingEnd fuel
      return (k, v) :: (← flowEntries false fuel)
    if ← sees [.flowMappingEnd] then
      skip
      return []
    let n ← node false false fuel
    let v ← empty
    return (n, v) :: (← flowEntries false fuel)

end

/-! ## Documents -/

/-- What the directives of a document say. -/
structure Heading where
  versioned : Bool := false
  handles : Dict String String := []

/-- Takes in a directive. Each is given once, and the version is one that is known. -/
def Heading.add (h : Heading) : Directive → Read Heading
  | .version major => if h.versioned || major ≠ 1 then fail else pure { h with versioned := true }
  | .handle name start =>
    if h.handles.contains name then fail
    else pure { h with handles := h.handles.set name start }
  | .other => pure h

def headingFrom (h : Heading) : List Token → Read Heading
  | .directive d :: rest => do
    let h ← h.add d
    skip
    headingFrom h rest
  | _ => pure h

/-- The handles that every document has. -/
def usualHandles : Dict String String := [("!", "!"), ("!!", Tag.known)]

def setHandles (handles : Dict String String) : Read Unit :=
  modify fun r => { r with handles := usualHandles.merge handles }

/-- Takes in the directives before a document's mark, and the mark. -/
def documentStart : Read Unit := do
  let h ← headingFrom {} (← get).tokens
  setHandles h.handles
  expect .documentStart

/-- Steps over marks that end documents. -/
def skipEnds : Read Unit :=
  modify fun r => { r with tokens := r.tokens.dropWhile (· = .documentEnd) }

/-- A document that is led by its mark, after any directives. -/
def markedDocument (fuel : Nat) : Read Ref := do
  documentStart
  match ← peek with
  | none | some (.directive _) | some .documentStart | some .documentEnd => empty
  | some _ => node true false fuel

/-- The document of a text, if there is one. -/
def document : Read (Option Ref) := do
  let fuel := 6 * (← get).tokens.length + 8
  setHandles []
  match ← peek with
  | none => return none
  | some (.directive _) | some .documentStart => return some (← markedDocument fuel)
  | some _ => return some (← node true false fuel)

/-- The only document of a text, if there is one. -/
def onlyDocument : Read (Option Ref) := do
  let root ← document
  skipEnds
  match ← peek with
  | none => return root
  | some _ =>
    documentStart
    fail

end Node

/-- The nodes of a document by their numbers, and the number of the outermost. -/
structure NodeGraph where
  nodes : Array Node
  root : Ref

/-- The nodes that a text writes; none if the text is empty. -/
def NodeGraph.ofSource? (s : Source) : Except Fault (Option NodeGraph) :=
  (Node.onlyDocument.run { tokens := tokensOf s }).map fun (root, r) =>
    root.map fun root => ⟨r.nodes, root⟩

end PatchForge.Yaml
