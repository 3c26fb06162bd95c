import PatchForge.Json.Value
import PatchForge.Text.Blank

/-!
# Reading JSON

A reader for one JSON text. Beyond the standard it takes `NaN`,
`Infinity` and `-Infinity`; a number too large for its kind becomes an
infinity, and a name that an object repeats keeps its first position
and takes its last value.

Every rule passes on the characters that are left, so a fault is known
by how many characters stood before it. `Reason` says what was missed.
-/

namespace PatchForge.Json

/-- What the reader missed. -/
inductive Reason where
  | value
  | fieldName
  | colon
  | comma
  | stringEnd
  | controlCharacter
  | escapeSequence
  | unicodeEscape
  | textEnd
  | byteOrderMark
  | integerTooLong (digits : Nat)
  | tooDeep
  deriving DecidableEq, Repr

def Reason.text : Reason → String
  | .value => "Expecting value"
  | .fieldName => "Expecting property name enclosed in double quotes"
  | .colon => "Expecting ':' delimiter"
  | .comma => "Expecting ',' delimiter"
  | .stringEnd => "Unterminated string starting at"
  | .controlCharacter => "Invalid control character at"
  | .escapeSequence => "Invalid \\escape"
  | .unicodeEscape => "Invalid \\uXXXX escape"
  | .textEnd => "Extra data"
  | .byteOrderMark => "Unexpected UTF-8 BOM (decode using utf-8-sig)"
  | .integerTooLong digits =>
    "Exceeds the limit (4300 digits) for integer string conversion: value has " ++
      Text.decimal digits ++ " digits; use sys.set_int_max_str_digits() to increase the limit"
  | .tooDeep => "maximum recursion depth exceeded"

/-- A fault, with the count of characters left where it stands. -/
structure Fault where
  reason : Reason
  left : Nat
  deriving Repr

/-- The result of reading part of a text: a value and the rest. -/
abbrev Read (α : Type) := Except Fault (α × List Char)

def failAt {α : Type} (reason : Reason) (rest : List Char) : Read α :=
  .error ⟨reason, rest.length⟩

/-- The white space of JSON. -/
def isSpace (c : Char) : Bool :=
  c = ' ' || c = '\t' || c = '\n' || c = '\r'

def skipSpace (cs : List Char) : List Char :=
  cs.dropWhile isSpace

/-! ## Strings -/

def hexValue? (c : Char) : Option Nat :=
  if '0' ≤ c && c ≤ '9' then some (c.toNat - '0'.toNat)
  else if 'a' ≤ c && c ≤ 'f' then some (c.toNat - 'a'.toNat + 10)
  else if 'A' ≤ c && c ≤ 'F' then some (c.toNat - 'A'.toNat + 10)
  else none

/-- The code unit written by the four hexadecimal digits after an escape's `u`; at least one
character must follow them. -/
def unit? : List Char → Option (Nat × List Char)
  | a :: b :: c :: d :: e :: rest => do
    let a ← hexValue? a
    let b ← hexValue? b
    let c ← hexValue? c
    let d ← hexValue? d
    return (((a * 16 + b) * 16 + c) * 16 + d, e :: rest)
  | _ => none

def isHighUnit (n : Nat) : Bool := 0xD800 ≤ n && n ≤ 0xDBFF

def isLowUnit (n : Nat) : Bool := 0xDC00 ≤ n && n ≤ 0xDFFF

/-- The character of a code unit; half of a pair alone reads as the replacement character. -/
def unitChar (n : Nat) : Char :=
  if isHighUnit n || isLowUnit n then Char.ofNat 0xFFFD else Char.ofNat n

def pairChar (high low : Nat) : Char :=
  Char.ofNat (0x10000 + (high - 0xD800) * 0x400 + (low - 0xDC00))

def simpleEscape? : Char → Option Char
  | '"' => some '"'
  | '\\' => some '\\'
  | '/' => some '/'
  | 'b' => some (Char.ofNat 8)
  | 'f' => some (Char.ofNat 12)
  | 'n' => some '\n'
  | 'r' => some '\r'
  | 't' => some '\t'
  | _ => none

/-- The rest of a string after its opening quote, where `start` characters were left. `acc`
holds the characters read so far, last first. -/
def stringFrom (start : Nat) : Nat → List Char → List Char → Read String
  | 0, _, _ => .error ⟨.stringEnd, start⟩
  | fuel + 1, acc, cs =>
    match cs with
    | [] => .error ⟨.stringEnd, start⟩
    | '"' :: rest => .ok (String.ofList acc.reverse, rest)
    | ['\\'] => .error ⟨.stringEnd, start⟩
    | '\\' :: 'u' :: rest =>
      match unit? rest with
      | none => failAt .unicodeEscape ('u' :: rest)
      | some (high, '\\' :: 'u' :: rest') =>
        if isHighUnit high then
          match unit? rest' with
          | some (low, rest'') =>
            if isLowUnit low then stringFrom start fuel (pairChar high low :: acc) rest''
            else stringFrom start fuel (unitChar high :: acc) ('\\' :: 'u' :: rest')
          | none => stringFrom start fuel (unitChar high :: acc) ('\\' :: 'u' :: rest')
        else stringFrom start fuel (unitChar high :: acc) ('\\' :: 'u' :: rest')
      | some (unit, rest') => stringFrom start fuel (unitChar unit :: acc) rest'
    | '\\' :: c :: rest =>
      match simpleEscape? c with
      | some d => stringFrom start fuel (d :: acc) rest
      | none => failAt .escapeSequence ('\\' :: c :: rest)
    | c :: rest =>
      if c.toNat < 0x20 then failAt .controlCharacter (c :: rest)
      else stringFrom start fuel (c :: acc) rest

/-- A string, from just after its opening quote. -/
def string (rest : List Char) : Read String :=
  stringFrom (rest.length + 1) (rest.length + 1) [] rest

/-! ## Numbers -/

def digitsValue (ds : List Char) : Nat :=
  ds.foldl (fun n c => n * 10 + (c.toNat - '0'.toNat)) 0

/-- The digits at the start, and the rest. -/
def digitsSpan (cs : List Char) : List Char × List Char :=
  cs.span Text.isAsciiDigit

/-- The fraction after a whole number: a point and at least one digit. -/
def fractionSpan : List Char → List Char × List Char
  | '.' :: c :: rest => if Text.isAsciiDigit c then digitsSpan (c :: rest) else ([], '.' :: c :: rest)
  | cs => ([], cs)

/-- The exponent after a number: a letter e, perhaps a sign, and at least one digit. -/
def exponentSpan (cs : List Char) : Option (Int × List Char) :=
  match cs with
  | e :: rest =>
    if e = 'e' || e = 'E' then
      let (negative, rest) := match rest with
        | '-' :: r => (true, r)
        | '+' :: r => (false, r)
        | r => (false, r)
      match digitsSpan rest with
      | ([], _) => none
      | (ds, rest) => some (if negative then -(digitsValue ds : Int) else digitsValue ds, rest)
    else none
  | [] => none

/-- The whole part of a number: a zero alone, or digits that do not start with one. -/
def wholeSpan : List Char → List Char × List Char
  | '0' :: rest => (['0'], rest)
  | cs => digitsSpan cs

/-- The number of digits from which an integer is refused. -/
def integerDigitLimit : Nat := 4300

/-- A number that starts at `cs`, its sign taken off. -/
def number (start : List Char) (negative : Bool) (cs : List Char) : Read Json :=
  match wholeSpan cs with
  | ([], _) => failAt .value start
  | (whole, rest) =>
    let (fraction, rest) := fractionSpan rest
    let exponent := exponentSpan rest
    if fraction.isEmpty && exponent.isNone then
      if integerDigitLimit < whole.length then failAt (.integerTooLong whole.length) start
      else
        let n : Int := digitsValue whole
        .ok (.int (if negative then -n else n), rest)
    else
      let (e, rest) := exponent.getD (0, rest)
      let m := digitsValue (whole ++ fraction)
      .ok (.float (Binary64.ofDecimal negative m (e - fraction.length)), rest)

/-! ## Values -/

/-- How many arrays and objects may be open at once. Each takes one of the thousand calls that
can be under way, and this is what is left for a caller ten calls deep, as one is that reads a
declaration or the settings from the top of a command. A caller further down has so many fewer. -/
def depthLimit : Nat := 990

/-- The text after `word`, if it starts the characters. -/
def after? (word : String) (cs : List Char) : Option (List Char) :=
  if word.toList.isPrefixOf cs then some (cs.drop word.length) else none

/-- A value without parts: a string, a number or a named value. -/
def scalar (cs : List Char) : Read Json :=
  match cs with
  | '"' :: rest => (string rest).map fun (s, rest) => (.str s, rest)
  | '-' :: rest =>
    match after? "Infinity" rest with
    | some rest => .ok (.float (.infinite true), rest)
    | none => number cs true rest
  | _ =>
    match after? "null" cs, after? "true" cs, after? "false" cs, after? "NaN" cs,
      after? "Infinity" cs with
    | some rest, _, _, _, _ => .ok (.null, rest)
    | _, some rest, _, _, _ => .ok (.bool true, rest)
    | _, _, some rest, _, _ => .ok (.bool false, rest)
    | _, _, _, some rest, _ => .ok (.float .nan, rest)
    | _, _, _, _, some rest => .ok (.float (.infinite false), rest)
    | _, _, _, _, _ => number cs false cs

mutual

/-- A value that starts at the first character, with `depth` arrays and objects open. -/
def value : Nat → Nat → List Char → Read Json
  | 0, _, cs => failAt .tooDeep cs
  | fuel + 1, depth, cs =>
    match cs with
    | '[' :: rest =>
      if depthLimit ≤ depth then failAt .tooDeep cs
      else
        match skipSpace rest with
        | ']' :: rest => .ok (.arr [], rest)
        | rest => (items fuel (depth + 1) rest).map fun (vs, rest) => (.arr vs, rest)
    | '\x7b' :: rest =>
      if depthLimit ≤ depth then failAt .tooDeep cs
      else
        match skipSpace rest with
        | '\x7d' :: rest => .ok (.obj [], rest)
        | rest =>
          (members fuel (depth + 1) rest).map fun (fs, rest) => (.obj (Dict.ofEntries fs), rest)
    | _ => scalar cs

/-- The items of an array, the closing bracket included. -/
def items : Nat → Nat → List Char → Read (List Json)
  | 0, _, cs => failAt .tooDeep cs
  | fuel + 1, depth, cs =>
    match value fuel depth cs with
    | .error f => .error f
    | .ok (v, rest) =>
      match skipSpace rest with
      | ']' :: rest => .ok ([v], rest)
      | ',' :: rest => (items fuel depth (skipSpace rest)).map fun (vs, rest) => (v :: vs, rest)
      | rest => failAt .comma rest

/-- The fields of an object, the closing brace included. -/
def members : Nat → Nat → List Char → Read (List (String × Json))
  | 0, _, cs => failAt .tooDeep cs
  | fuel + 1, depth, cs =>
    match cs with
    | '"' :: rest =>
      match string rest with
      | .error f => .error f
      | .ok (name, rest) =>
        match skipSpace rest with
        | ':' :: rest =>
          match value fuel depth (skipSpace rest) with
          | .error f => .error f
          | .ok (v, rest) =>
            match skipSpace rest with
            | '\x7d' :: rest => .ok ([(name, v)], rest)
            | ',' :: rest =>
              (members fuel depth (skipSpace rest)).map fun (fs, rest) => ((name, v) :: fs, rest)
            | rest => failAt .comma rest
        | rest => failAt .colon rest
    | _ => failAt .fieldName cs

end

/-- Reads a whole text as one value. Each step of the reader uses up a character, so fuel of
twice the length suffices. -/
def document (cs : List Char) : Except Fault Json :=
  match cs with
  | '\uFEFF' :: _ => .error ⟨.byteOrderMark, cs.length⟩
  | _ =>
    match value (2 * cs.length + 2) 0 (skipSpace cs) with
    | .error f => .error f
    | .ok (v, rest) =>
      match skipSpace rest with
      | [] => .ok v
      | rest => .error ⟨.textEnd, rest.length⟩

/-! ## Faults in place -/

/-- A fault with the number of characters before it and its place in lines and columns. -/
structure Located where
  reason : Reason
  offset : Nat
  line : Nat
  column : Nat
  deriving DecidableEq, Repr

def locate (cs : List Char) (f : Fault) : Located :=
  let before := cs.take (cs.length - f.left)
  let column := (before.reverse.takeWhile (· ≠ '\n')).length + 1
  ⟨f.reason, before.length, before.count '\n' + 1, column⟩

/-- Faults of a value's size say nothing about their place. -/
def Located.message (f : Located) : String :=
  match f.reason with
  | .integerTooLong _ | .tooDeep => f.reason.text
  | reason =>
    reason.text ++ ": line " ++ Text.decimal f.line ++ " column " ++ Text.decimal f.column ++
      " (char " ++ Text.decimal f.offset ++ ")"

/-- The value that a text holds, or the first fault in it. -/
def parse (s : String) : Except Located Json :=
  (document s.toList).mapError (locate s.toList)

end PatchForge.Json
