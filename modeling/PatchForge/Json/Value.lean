import PatchForge.Dict
import PatchForge.Number.Shortest
import PatchForge.Text.Quoted

/-!
# JSON values

The values that declarations and the user configuration are made of.
Integers are unbounded and apart from double-precision numbers; an
object keeps its fields in order of first appearance, each name once.

Two views of a value recur in the tool. `present` tells a field that
says something from one that is null, false, zero or empty. `text` is
the value as part of a message: a string as it stands, any other value
as `shown` spells it.
-/

namespace PatchForge

/-- A JSON value. -/
inductive Json where
  | null
  | bool (b : Bool)
  | int (n : Int)
  | float (x : Binary64)
  | str (s : String)
  | arr (items : List Json)
  | obj (fields : List (String × Json))
  deriving Inhabited

namespace Json

/-- The field of that name in an object. -/
def field? : Json → String → Option Json
  | .obj fields, name => Dict.get? fields name
  | _, _ => none

/-- The field of that name among fields, null standing for absence too. -/
def fieldOrNull (fields : Dict String Json) (name : String) : Json :=
  (fields.get? name).getD .null

def isNull : Json → Bool
  | .null => true
  | _ => false

/-- Neither null, false, zero nor empty. -/
def present : Json → Bool
  | .null => false
  | .bool b => b
  | .int n => n ≠ 0
  | .float x => !x.isZero
  | .str s => s ≠ ""
  | .arr items => !items.isEmpty
  | .obj fields => !fields.isEmpty

/-- The name of a value's kind, as messages give it. -/
def kind : Json → String
  | .null => "NoneType"
  | .bool _ => "bool"
  | .int _ => "int"
  | .float _ => "float"
  | .str _ => "str"
  | .arr _ => "list"
  | .obj _ => "dict"

mutual

/-- The value spelled out, strings between quotes. -/
def shown : Json → String
  | .null => "None"
  | .bool true => "True"
  | .bool false => "False"
  | .int n => Text.decimalInt n
  | .float x => x.text Binary64.usualStyle
  | .str s => Text.quoted s
  | .arr items => "[" ++ ", ".intercalate (shownItems items) ++ "]"
  | .obj fields => "\x7b" ++ ", ".intercalate (shownFields fields) ++ "\x7d"

def shownItems : List Json → List String
  | [] => []
  | v :: vs => shown v :: shownItems vs

def shownFields : List (String × Json) → List String
  | [] => []
  | (k, v) :: rest => (Text.quoted k ++ ": " ++ shown v) :: shownFields rest

end

/-- The value as part of a message. -/
def text : Json → String
  | .str s => s
  | v => v.shown

@[simp] theorem text_str (s : String) : text (.str s) = s := rfl

/-- The text of a value that is present, else nothing. -/
def textIfPresent (v : Json) : String :=
  if v.present then v.text else ""

/-! ## Values as identifiers -/

/-- A value that can serve as an identifier: anything but an array or an object. -/
def isScalar : Json → Bool
  | .arr _ | .obj _ => false
  | _ => true

/-- Equality of scalars, in which numbers of either kind and truth values compare by value. -/
def sameScalar : Json → Json → Bool
  | .null, .null => true
  | .str s, .str t => s = t
  | .float x, .float y =>
    x = y || (x.isZero && y.isZero)
  | a, b =>
    match asInt? a, asInt? b with
    | some m, some n => m = n
    | _, _ => false
where
  /-- The integer that a number or a truth value equals. -/
  asInt? : Json → Option Int
    | .bool b => some (if b then 1 else 0)
    | .int n => some n
    | .float x => x.toInt?
    | _ => none

end Json

end PatchForge
