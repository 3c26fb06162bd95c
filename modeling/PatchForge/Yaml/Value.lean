import PatchForge.Yaml.Moment
import PatchForge.Yaml.Node
import PatchForge.Yaml.Number

/-!
# YAML values

A value is a scalar or a collection. Keys of mappings are scalars; of
the entries with one key the first keeps its place and the last its
value.

A collection may stand in several places, also inside itself. So a
collection is known by the number of its node, and a document keeps what
each of them holds. A value is spelled out with three points where a
collection stands inside itself.
-/

namespace PatchForge.Yaml

/-- A value without parts. -/
inductive Scalar where
  | null
  | bool (b : Bool)
  | int (n : Int)
  | float (x : Binary64)
  /-- the not-a-number: 0 by its name, else one that was computed at a place of its own -/
  | notANumber (origin : Nat)
  | text (s : String)
  | bytes (b : List UInt8)
  | moment (m : Moment)
  deriving DecidableEq, Repr, Inhabited

namespace Scalar

/-- The integer that a number or a truth value equals. -/
def asInt? : Scalar → Option Int
  | .bool b => some (if b then 1 else 0)
  | .int n => some n
  | .float x => x.toInt?
  | _ => none

/-- The moment in universal time. -/
def instant? : Scalar → Option (Int × Nat)
  | .moment m => m.instant?
  | _ => none

/-- Equality of keys: numbers of either kind and truth values compare by value, moments of known
zones by their instants, and a computed not-a-number equals itself alone. -/
def same (a b : Scalar) : Bool :=
  match a.asInt?, b.asInt? with
  | some m, some n => m = n
  | _, _ =>
    match a.instant?, b.instant? with
    | some s, some t => s = t
    | _, _ => a = b

instance : BEq Scalar := ⟨same⟩

/-- A byte between quotes. -/
def byteText (quote : Char) (b : UInt8) : List Char :=
  let c := Char.ofNat b.toNat
  if c = quote || c = '\\' then ['\\', c]
  else if c = '\n' then ['\\', 'n']
  else if c = '\r' then ['\\', 'r']
  else if c = '\t' then ['\\', 't']
  else if 0x20 ≤ b && b < 0x7F then [c]
  else '\\' :: 'x' :: Text.hex 2 b.toNat

/-- Bytes between quotes, double ones if there are only single ones within. -/
def bytesText (bs : List UInt8) : String :=
  let quote := if bs.contains 0x27 && !bs.contains 0x22 then '"' else '\''
  String.ofList ('b' :: quote :: bs.flatMap (byteText quote) ++ [quote])

/-- The name of a scalar's kind, as messages give it. -/
def kind : Scalar → String
  | .null => "NoneType"
  | .bool _ => "bool"
  | .int _ => "int"
  | .float _ | .notANumber _ => "float"
  | .text _ => "str"
  | .bytes _ => "bytes"
  | .moment m => if m.clock.isSome then "datetime.datetime" else "datetime.date"

/-- The digits of a whole number, if they are not too many to be shown. -/
def wholeShown (n : Int) : Except Fault String :=
  let digits := Nat.toDigits 10 n.natAbs
  if Json.integerDigitLimit < digits.length then .error .shownTooLong
  else .ok (if n < 0 then String.ofList ('-' :: digits) else String.ofList digits)

/-- The value spelled out, texts between quotes. -/
def shown : Scalar → Except Fault String
  | .null => .ok "None"
  | .bool true => .ok "True"
  | .bool false => .ok "False"
  | .int n => wholeShown n
  | .float x => .ok (x.text Binary64.usualStyle)
  | .notANumber _ => .ok (Binary64.nan.text Binary64.usualStyle)
  | .text s => .ok (Text.quoted s)
  | .bytes bs => .ok (bytesText bs)
  | .moment m => .ok m.shown

/-- The value as a text. -/
def asText : Scalar → Except Fault String
  | .text s => .ok s
  | .moment m => .ok m.text
  | s => s.shown

/-- Neither null, false, zero nor empty. -/
def present : Scalar → Bool
  | .null => false
  | .bool b => b
  | .int n => n ≠ 0
  | .float x => !x.isZero
  | .notANumber _ => true
  | .text s => s ≠ ""
  | .bytes bs => !bs.isEmpty
  | .moment _ => true

end Scalar

/-- A YAML value. -/
inductive Value where
  | scalar (s : Scalar)
  | collection (ref : Ref)
  deriving DecidableEq, Inhabited

/-- What a collection holds. -/
inductive Collection where
  | sequence (items : List Value)
  | mapping (entries : Dict Scalar Value)
  | pairs (entries : List (Value × Value))
  | set (members : List Scalar)
  deriving Inhabited

namespace Collection

def isEmpty : Collection → Bool
  | .sequence items => items.isEmpty
  | .mapping entries => entries.isEmpty
  | .pairs entries => entries.isEmpty
  | .set members => members.isEmpty

/-- A collection inside itself. -/
def again : Collection → String
  | .sequence _ | .pairs _ => "[...]"
  | .mapping _ | .set _ => "\x7b...\x7d"

/-- The collection spelled out, its parts from left to right. -/
def shownWith (spell : Value → Except Fault String) : Collection → Except Fault String
  | .sequence items => do
    return "[" ++ ", ".intercalate (← items.mapM spell) ++ "]"
  | .mapping entries => do
    let parts ← entries.mapM fun (k, v) => return (← k.shown) ++ ": " ++ (← spell v)
    return "\x7b" ++ ", ".intercalate parts ++ "\x7d"
  | .pairs entries => do
    let parts ← entries.mapM fun (k, v) =>
      return "(" ++ (← spell k) ++ ", " ++ (← spell v) ++ ")"
    return "[" ++ ", ".intercalate parts ++ "]"
  | .set [] => .ok "set()"
  | .set members => do
    return "\x7b" ++ ", ".intercalate (← members.mapM Scalar.shown) ++ "\x7d"

end Collection

/-- A value with all collections that it reaches. -/
structure Document where
  root : Value
  collections : Array Collection
  deriving Inhabited

namespace Document

/-- The number of values that can be spelled out in one another. -/
def shownLimit : Nat := 985

def find (d : Document) (ref : Ref) : Collection := d.collections.getD ref default

/-- The entries of a value that is a mapping. -/
def entries? (d : Document) : Value → Option (Dict Scalar Value)
  | .scalar _ => none
  | .collection ref =>
    match d.find ref with
    | .mapping entries => some entries
    | _ => none

/-- The value spelled out, inside the collections `around`. -/
def shownWithin (d : Document) : Nat → List Ref → Value → Except Fault String
  | _, _, .scalar s => s.shown
  | 0, _, .collection _ => .error .nested
  | depth + 1, around, .collection ref =>
    if around.contains ref then .ok (d.find ref).again
    else (d.find ref).shownWith (d.shownWithin depth (ref :: around))

/-- The value as a text: a text as it stands, all else spelled out. -/
def asText (d : Document) : Value → Except Fault String
  | .scalar s => s.asText
  | v => d.shownWithin shownLimit [] v

/-- Neither null, false, zero nor empty. -/
def present (d : Document) : Value → Bool
  | .scalar s => s.present
  | .collection ref => !(d.find ref).isEmpty

end Document

end PatchForge.Yaml
