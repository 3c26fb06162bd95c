import PatchForge.Json.Value

/-!
# Writing JSON

Values as JSON text in ASCII: other characters are escaped by their
UTF-16 code units. `render none` writes on one line, `render (some n)`
gives every item and field a line of its own, indented by `n` blanks a
level; empty arrays and objects stay closed.
-/

namespace PatchForge.Json

def unitEscape (n : Nat) : List Char :=
  '\\' :: 'u' :: Text.hex 4 n

/-- One character inside a JSON string. -/
def escapeChar (c : Char) : List Char :=
  let n := c.toNat
  if c = '"' then ['\\', '"']
  else if c = '\\' then ['\\', '\\']
  else if c = '\n' then ['\\', 'n']
  else if c = '\r' then ['\\', 'r']
  else if c = '\t' then ['\\', 't']
  else if n = 8 then ['\\', 'b']
  else if n = 12 then ['\\', 'f']
  else if 0x20 ≤ n && n < 0x7F then [c]
  else if n < 0x10000 then unitEscape n
  else unitEscape (0xD800 + (n - 0x10000) / 0x400) ++ unitEscape (0xDC00 + (n - 0x10000) % 0x400)

def renderString (s : String) : String :=
  String.ofList ('"' :: s.toList.flatMap escapeChar ++ ['"'])

/-- Numbers in JSON text spell the infinities and the not-a-number out. -/
def numberStyle : Binary64.NumberStyle :=
  { Binary64.usualStyle with infinite := "Infinity", nan := "NaN" }

/-- A line end and the indentation of a level, or nothing on one line. -/
def lineBreak (indent : Option Nat) (level : Nat) : String :=
  match indent with
  | none => ""
  | some n => String.ofList ('\n' :: List.replicate (n * level) ' ')

/-- What stands between two parts at a level. -/
def separator (indent : Option Nat) (level : Nat) : String :=
  match indent with
  | none => ", "
  | some _ => "," ++ lineBreak indent level

mutual

/-- The text of a value whose brackets stand at `level`. -/
def renderAt (indent : Option Nat) (level : Nat) : Json → String
  | .null => "null"
  | .bool true => "true"
  | .bool false => "false"
  | .int n => Text.decimalInt n
  | .float x => x.text numberStyle
  | .str s => renderString s
  | .arr [] => "[]"
  | .arr (v :: vs) =>
    "[" ++ lineBreak indent (level + 1) ++
      (separator indent (level + 1)).intercalate (renderItems indent (level + 1) (v :: vs)) ++
      lineBreak indent level ++ "]"
  | .obj [] => "\x7b\x7d"
  | .obj (f :: fs) =>
    "\x7b" ++ lineBreak indent (level + 1) ++
      (separator indent (level + 1)).intercalate (renderFields indent (level + 1) (f :: fs)) ++
      lineBreak indent level ++ "\x7d"

def renderItems (indent : Option Nat) (level : Nat) : List Json → List String
  | [] => []
  | v :: vs => renderAt indent level v :: renderItems indent level vs

def renderFields (indent : Option Nat) (level : Nat) : List (String × Json) → List String
  | [] => []
  | (k, v) :: rest =>
    (renderString k ++ ": " ++ renderAt indent level v) :: renderFields indent level rest

end

/-- The JSON text of a value. -/
def render (indent : Option Nat) (v : Json) : String :=
  renderAt indent 0 v

end PatchForge.Json
