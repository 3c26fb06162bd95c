import PatchForge.Format.Alignment
import PatchForge.Format.Description
import PatchForge.Format.Kind

/-!
# What a field stands for

A field stands for a text of the record, or for what is reached from it
by members and indices: a character, the text's kind, a member of the
kind, a name, a number. `Operand.member` and `Operand.index` go one step;
`Operand.shown` is the operand as a text. A method of a value is shown
without the place where the value is kept.
-/

namespace PatchForge.Format

/-- What a field can stand for. -/
inductive Operand where
  | text (cs : List Char)
  | whole (n : Nat)
  | nothing
  | kind (k : Kind)
  /-- several kinds in order -/
  | kinds (ks : List Kind)
  /-- a kind with a key in brackets -/
  | keyed (k : Kind) (key : Operand)
  /-- a method or an operator together with its value -/
  | bound (m : Member) (value : Operand)
  /-- a member as its kind has it -/
  | member (m : Member)
  /-- all members of a kind -/
  | memberTable (k : Kind)
  deriving Repr, Inhabited

namespace Operand

def ofString (s : String) : Operand := .text s.toList

def ofString? : Option String → Operand
  | some s => ofString s
  | none => .nothing

def kindOf : Operand → Kind
  | .text _ => .text
  | .whole _ => .whole
  | .nothing => .nothing
  | .kind _ | .keyed .. => .kind
  | .kinds _ => .tuple
  | .bound m _ => if m.sort = .slot then .operator else .method
  | .member m =>
    match m.sort with
    | .slot => .slotMember
    | .getter => .getterMember
    | .field => .fieldMember
    | .classMethod => .classMember
    | _ => .methodMember
  | .memberTable _ => .memberTable

/-! ## Texts -/

/-- A name between apostrophes. -/
def between (name : String) : String := "'" ++ name ++ "'"

def kindText (k : Kind) : String := "<class " ++ between k.name ++ ">"

def memberText (m : Member) : String :=
  let word := match m.sort with
    | .slot => "slot wrapper"
    | .getter => "attribute"
    | .field => "member"
    | _ => "method"
  "<" ++ word ++ " " ++ between m.name ++ " of " ++ between m.owner.name ++ " objects>"

def boundText (m : Member) (value : Kind) : String :=
  if m.sort = .slot then
    "<method-wrapper " ++ between m.name ++ " of " ++ value.name ++ " object>"
  else "<built-in method " ++ m.name ++ " of " ++ value.name ++ " object>"

def kindsText : List Kind → String
  | [k] => "(" ++ kindText k ++ ",)"
  | ks => "(" ++ ", ".intercalate (ks.map kindText) ++ ")"

/-- A member in the table of its kind. -/
def entryText (m : Member) : String :=
  Text.quoted m.name ++ ": " ++ match m.sort with
    | .static => boundText m .kind
    | .constant => (m.owner.description?.map Text.quoted).getD "None"
    | _ => memberText m

def tableText (k : Kind) : String :=
  "\x7b" ++ ", ".intercalate (k.own.map entryText) ++ "\x7d"

/-- The operand spelled out, a text between quotes. -/
def quoted : Operand → List Char
  | .text cs => Text.quoteChars cs
  | .whole n => (Text.decimal n).toList
  | .nothing => "None".toList
  | .kind k => (kindText k).toList
  | .kinds ks => (kindsText ks).toList
  | .keyed k key => k.name.toList ++ '[' :: key.quoted ++ [']']
  | .bound m value => (boundText m value.kindOf).toList
  | .member m => (memberText m).toList
  | .memberTable k => ("mappingproxy(" ++ tableText k ++ ")").toList

/-- The operand as a text. -/
def shown : Operand → List Char
  | .text cs => cs
  | .memberTable k => (tableText k).toList
  | o => o.quoted

/-! ## Members -/

/-- What a kind's getters and fields say of a kind. -/
def ofKind (k : Kind) : String → Except Fault Operand
  | "__name__" | "__qualname__" => .ok (ofString k.name)
  | "__module__" => .ok (ofString "builtins")
  | "__bases__" => .ok (.kinds k.line.tail)
  | "__base__" => .ok ((k.line.tail.head?.map Operand.kind).getD .nothing)
  | "__mro__" => .ok (.kinds k.line)
  | "__dict__" => .ok (.memberTable k)
  | "__text_signature__" => .ok (ofString? k.signature?)
  | "__basicsize__" => .ok (.whole k.layout.size)
  | "__itemsize__" => .ok (.whole k.layout.itemSize)
  | "__flags__" => .ok (.whole k.layout.flags)
  | "__weakrefoffset__" => .ok (.whole k.layout.references)
  | "__dictoffset__" => .ok (.whole k.layout.fields)
  | "__doc__" =>
    match k.description?, k.own? "__doc__" with
    | none, some m => .ok (if m.sort = .constant then .nothing else .member m)
    | said, _ => .ok (ofString? said)
  | "__annotations__" => .error (.kindMemberMissing k.name "__annotations__")
  | name => .error (.memberUnset name)

/-- What the getters and fields of members say of one. -/
def ofMember (m : Member) : String → Operand
  | "__name__" => ofString m.name
  | "__qualname__" => ofString (m.owner.name ++ "." ++ m.name)
  | "__objclass__" => .kind m.owner
  | "__doc__" => ofString? (description m.owner.name m.name).text
  | "__text_signature__" => ofString? (description m.owner.name m.name).signature
  | _ => .nothing

/-- What the getters and fields of methods and operators say of one. -/
def ofBound (m : Member) (value : Operand) : String → Operand
  | "__self__" => if m.name = "maketrans" then .nothing else value
  | "__qualname__" =>
    let owner := match m.sort, value with
      | .slot, _ => m.owner
      | _, .kind k => k
      | _, v => v.kindOf
    ofString (owner.name ++ "." ++ m.name)
  | name => ofMember m name

/-- What a getter or a field gives for an operand. -/
def got : Operand → String → Except Fault Operand
  | o, "__class__" => .ok (.kind o.kindOf)
  | .kind k, name | .keyed k _, name => ofKind k name
  | .member m, name => .ok (ofMember m name)
  | .bound m value, name => .ok (ofBound m value name)
  | .whole n, name =>
    .ok (.whole (if name = "imag" then 0 else if name = "denominator" then 1 else n))
  | _, _ => .ok .nothing

/-- What a value has under a member of its kind. -/
def ofValue (o : Operand) (m : Member) : Except Fault Operand :=
  match m.sort with
  | .slot | .method => .ok (.bound m o)
  | .classMethod => .ok (.bound m (.kind o.kindOf))
  | .static => .ok (.bound m (.kind m.owner))
  | .constant => .ok (ofString? m.owner.description?)
  | .getter | .field => o.got m.name

/-- What a kind has under a member of its own line. -/
def ofLine (k : Kind) (m : Member) : Operand :=
  match m.sort with
  | .classMethod => .bound m (.kind k)
  | .static => .bound m (.kind m.owner)
  | .constant => ofString? m.owner.description?
  | _ => .member m

/-- The member of a kind itself: what is worked out for all kinds comes before what the kind's own
values have, and that before the methods of all kinds. -/
def memberOfKind (k : Kind) (name : String) : Except Fault Operand :=
  let general := Kind.member? .kind name
  match general, k.member? name with
  | some m, own =>
    if m.sort = .getter || m.sort = .field then (Operand.kind k).got name
    else
      match own with
      | some m => .ok (ofLine k m)
      | none => ofValue (.kind k) m
  | none, some m => .ok (ofLine k m)
  | none, none => .error (.kindMemberMissing k.name name)

/-- The member of an operand. -/
def memberAt : Operand → String → Except Fault Operand
  | .kind k, name | .keyed k _, name => memberOfKind k name
  | o, name =>
    match o.kindOf.member? name with
    | some m => ofValue o m
    | none => .error (.memberMissing o.kindOf.name name)

/-! ## Indices -/

/-- The key of an index: a number or a word. -/
def ofKey (number : Option Nat) (key : List Char) : Operand :=
  match number with
  | some n => .whole n
  | none => .text key

/-- The part of an operand under an index, which is a number if `number` is one. `count` is the
number of texts in the record. -/
def part (count : Nat) (key : List Char) (number : Option Nat) : Operand → Except Fault Operand
  | .text cs =>
    match number with
    | none => .error .indexNotNumber
    | some n =>
      match cs[n]? with
      | some c => .ok (.text [c])
      | none => .error (.slotBeyond count)
  | .kinds ks =>
    match number with
    | none => .error .kindsIndexNotNumber
    | some n =>
      match ks[n]? with
      | some k => .ok (.kind k)
      | none => .error (.slotBeyond count)
  | .memberTable k =>
    match number, k.own? (String.ofList key) with
    | some n, _ => .error (.noSuchKey (Text.decimal n))
    | none, none => .error (.noSuchKey (Text.quoted (String.ofList key)))
    | none, some m =>
      .ok (if m.sort = .static || m.sort = .constant then ofLine k m else .member m)
  | .kind k =>
    if k = .kind || (k.own? "__class_getitem__").isSome then .ok (.keyed k (ofKey number key))
    else .error (.kindNotIndexed k.name)
  | .keyed k before => .error (.notGeneric (String.ofList (Operand.keyed k before).quoted))
  | o => .error (.notIndexed o.kindOf.name)

/-! ## Layout -/

/-- The operand laid out. Only texts and numbers can be. -/
def align (spec : List Char) : Operand → Except Fault (List Char)
  | .text cs => Format.align spec cs
  | .whole n => Format.alignWhole spec n
  | o =>
    if spec.isEmpty then .ok o.shown
    else
      match o with
      | .keyed .. => .error (.alignmentRefused "types.GenericAlias")
      | _ => .error (.alignmentRefused o.kindOf.name)

end Operand

end PatchForge.Format
