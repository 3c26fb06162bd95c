import PatchForge.Yaml.MemberOrder
import PatchForge.Yaml.Merge

/-!
# The value of a document

The value of a node by its tag. A collection is found first and filled
later: all nodes that are met while one collection is filled come before
the parts of those that were met, so faults are told level by level. A
mapping is flattened before the first of its entries is looked at.

A node has one value, wherever it stands.
-/

namespace PatchForge.Yaml

/-! ## Scalars -/

/-- The value of a letter of base 64. -/
def base64Value? (c : Char) : Option Nat :=
  if 'A' ≤ c && c ≤ 'Z' then some (c.toNat - 'A'.toNat)
  else if 'a' ≤ c && c ≤ 'z' then some (c.toNat - 'a'.toNat + 26)
  else if '0' ≤ c && c ≤ '9' then some (c.toNat - '0'.toNat + 52)
  else if c = '+' then some 62
  else if c = '/' then some 63
  else none

/-- Bytes in base 64. `group` are the values of the letters since the last whole group of four,
and `padding` counts the equals signs since the last letter. Other characters do not count. -/
def base64From : List Nat → Nat → List Char → Option (List UInt8)
  | group, _, [] => if group.isEmpty then some [] else none
  | group, padding, c :: cs =>
    if c = '=' then
      if 2 ≤ group.length && 4 ≤ group.length + padding + 1 then some []
      else base64From group (padding + 1) cs
    else
      match base64Value? c, group with
      | none, _ => base64From group padding cs
      | some v, [] => base64From [v] 0 cs
      | some v, [a] => (base64From [a, v] 0 cs).map ((a * 4 + v / 16).toUInt8 :: ·)
      | some v, [a, b] => (base64From [a, b, v] 0 cs).map ((b % 16 * 16 + v / 4).toUInt8 :: ·)
      | some v, _ :: _ :: d :: _ => (base64From [] 0 cs).map ((d % 4 * 64 + v).toUInt8 :: ·)

/-- The bytes that a text in base 64 writes. -/
def base64Of (text : String) : Except Fault (List UInt8) :=
  if text.toList.all fun c => c.toNat < 128 then
    match base64From [] 0 text.toList with
    | some bytes => .ok bytes
    | none => .error .malformed
  else .error .malformed

def truthOf (text : String) : Except Fault Bool :=
  let word := Text.lower text
  if ["yes", "true", "on"].contains word then .ok true
  else if ["no", "false", "off"].contains word then .ok false
  else .error (.truth word)

def momentOf (text : String) : Except Fault Moment :=
  match writtenMoment? (dropLineFeed text.toList) with
  | some w => Moment.ofWritten w
  | none => .error .moment

/-- A number of a node: a not-a-number that is not named is the node's own. -/
def floatOf (text : String) (ref : Ref) : Except Fault Scalar :=
  (realOf text).map fun x =>
    match x with
    | .nan => .notANumber (if namesNotANumber text then 0 else ref + 1)
    | x => .float x

/-- The value of a node's text under a tag of scalars. -/
def scalarOf (tag : Tag) (text : String) (ref : Ref) : Except Fault Scalar :=
  match tag with
  | .null => .ok .null
  | .bool => (truthOf text).map .bool
  | .int => (integerOf text).map .int
  | .float => floatOf text ref
  | .binary => (base64Of text).map .bytes
  | .timestamp => (momentOf text).map .moment
  | .text => .ok (.text text)
  | _ => .error .malformed

/-- Is the value of a node with the tag a scalar? -/
def Tag.isScalar (tag : Tag) : Bool :=
  [Tag.null, .bool, .int, .float, .binary, .timestamp, .text].contains tag

/-- Is the value of a node with the tag a collection? -/
def Tag.isCollection (tag : Tag) : Bool :=
  [Tag.ordered, .pairs, .set, .sequence, .mapping].contains tag

/-! ## Nodes -/

/-- The nodes of a document, the values found so far, and what the collections hold. -/
structure Builder where
  nodes : Array Node
  values : Array (Option Value)
  collections : Array Collection
  /-- the collections that are not filled yet, in the order in which they were met -/
  waiting : List Ref := []

abbrev Build (α : Type) := StateT Builder (Except Fault) α

namespace Build

def fail {α : Type} : Build α := throw .malformed

def node (ref : Ref) : Build Node := do
  return (← get).nodes.getD ref default

def tagOf (ref : Ref) : Build Tag := do
  return (← node ref).tag

/-- The text of a scalar; that of a mapping is the text of its own value. -/
def textOf : Nat → Ref → Build String
  | 0, _ => throw .nested
  | calls + 1, ref => do
    match ← node ref with
    | .scalar _ text => return text
    | .sequence .. => fail
    | .mapping _ entries =>
      match ← entries.findM? fun e => return (← tagOf e.1) = .default with
      | some (_, value) => textOf calls value
      | none => fail

/-- The value of a node with a tag of scalars. A moment is read from a scalar alone. -/
def scalar (tag : Tag) (ref : Ref) : Build Scalar := do
  let text ← textOf Node.callLimit ref
  if tag = .timestamp && (← node ref).isMapping then throw .momentMapped
  match scalarOf tag text ref with
  | .ok s => return s
  | .error f => throw f

/-- The value that a node has from now on. -/
def settle (ref : Ref) (v : Value) : Build Value := do
  modify fun b => { b with values := b.values.setIfInBounds ref (some v) }
  return v

/-- The value of a node. A collection that is met for the first time waits to be filled. -/
def value (ref : Ref) : Build Value := do
  let b ← get
  match b.values.getD ref none with
  | some v => return v
  | none =>
    let tag ← tagOf ref
    if tag.isScalar then settle ref (.scalar (← scalar tag ref))
    else if tag.isCollection then
      set { b with waiting := b.waiting ++ [ref] }
      settle ref (.collection ref)
    else fail

/-- The value of a node as a key, which is a scalar. -/
def key (ref : Ref) : Build Scalar := do
  match ← value ref with
  | .scalar s => return s
  | .collection _ => fail

/-- The items of a sequence. -/
def items (ref : Ref) : Build (List Ref) := do
  match ← node ref with
  | .sequence _ items => return items
  | _ => fail

/-- The entry of a mapping that has no other. -/
def onlyEntry (ref : Ref) : Build (Ref × Ref) := do
  match ← node ref with
  | .mapping _ [e] => return e
  | _ => fail

/-- The entries of a mapping, once it is flattened. -/
def entries (ref : Ref) : Build (Dict Scalar Value) := do
  if !(← node ref).isMapping then fail
  let b ← get
  let ((), nodes) ← (Node.flatten ref).run b.nodes
  set { b with nodes }
  (nodes.getD ref default).entries.foldlM (fun d (k, v) => return d.set (← key k) (← value v)) []

/-- What a collection holds, by its tag. -/
def content (ref : Ref) : Tag → Build Collection
  | .sequence => return .sequence (← (← items ref).mapM value)
  | .mapping => return .mapping (← entries ref)
  | .set => return .set (inTableOrder (← entries ref).keys)
  | _ => do
    let pairs ← (← items ref).mapM fun item => do
      let (k, v) ← onlyEntry item
      return (← value k, ← value v)
    return .pairs pairs

def fill (ref : Ref) : Build Unit := do
  let c ← content ref (← tagOf ref)
  modify fun b => { b with collections := b.collections.setIfInBounds ref c }

/-- Fills the collections that wait, and those that are met on the way. Each waits once. -/
def fillAll : Nat → Build Unit
  | 0 => pure ()
  | fuel + 1 => do
    let b ← get
    match b.waiting with
    | [] => pure ()
    | ref :: waiting =>
      set { b with waiting }
      fill ref
      fillAll fuel

/-- The value of a document's outermost node, with all that it reaches. -/
def document (root : Ref) : Build Document := do
  let v ← value root
  let b ← get
  fillAll b.nodes.size
  return ⟨v, (← get).collections⟩

end Build

namespace Document

/-- The document of a text without values. -/
def empty : Document := ⟨.scalar .null, #[]⟩

def ofNodes (g : NodeGraph) : Except Fault Document :=
  let size := g.nodes.size
  (Build.document g.root).run' ⟨g.nodes, Array.replicate size none, Array.replicate size default, []⟩

/-- What a text writes; null if it writes nothing. -/
def ofSource (s : Source) : Except Fault Document :=
  match NodeGraph.ofSource? s with
  | .error f => .error f
  | .ok none => .ok empty
  | .ok (some g) => ofNodes g

end Document

end PatchForge.Yaml
