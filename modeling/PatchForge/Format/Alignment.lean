import PatchForge.Format.Fault
import PatchForge.Text.Digit

/-!
# Alignment

What may follow the colon of a replacement field: a fill character and
an alignment, a sign, flags, a width, a separator, a precision and a
code. Texts use the fill, the alignment, the width and the precision
(the most characters shown); the other parts are read, and refused if
they ask for what only numbers have. Whole numbers stand to the right
and are written in the base that the code names.
-/

namespace PatchForge.Format

/-- The largest number that a template may hold. -/
def numberLimit : Nat := 9223372036854775807

/-- Appends a digit to a number, if it stays within the limit. -/
def pushDigit (n d : Nat) : Except Fault Nat :=
  if (numberLimit - d) / 10 < n then .error .tooManyDigits else .ok (n * 10 + d)

/-- How a field is laid out. -/
structure Alignment where
  fill : Char := ' '
  align : Char := '<'
  sign : Option Char := none
  positiveZero : Bool := false
  alternate : Bool := false
  width : Option Nat := none
  separator : Option Char := none
  precision : Option Nat := none
  code : Char := 's'
  deriving DecidableEq, Repr

def isAlign (c : Char) : Bool :=
  c = '<' || c = '>' || c = '=' || c = '^'

/-- The fill and the alignment at the start, the alignment alone, or neither. -/
def readAlign (cs : List Char) : Option Char × Option Char × List Char :=
  match cs with
  | a :: b :: rest =>
    if isAlign b then (some a, some b, rest)
    else if isAlign a then (none, some a, b :: rest)
    else (none, none, cs)
  | [a] => if isAlign a then (none, some a, []) else (none, none, cs)
  | [] => (none, none, [])

/-- Takes the character off the start, if it is one of those wanted. -/
def takeChar (wanted : Char → Bool) : List Char → Option Char × List Char
  | c :: rest => if wanted c then (some c, rest) else (none, c :: rest)
  | [] => (none, [])

/-- The number at the start, if there is one. -/
def readNumberFrom : Option Nat → List Char → Except Fault (Option Nat × List Char)
  | n, [] => .ok (n, [])
  | n, c :: rest =>
    match Text.digitValue? c with
    | none => .ok (n, c :: rest)
    | some d =>
      match pushDigit (n.getD 0) d with
      | .error f => .error f
      | .ok n => readNumberFrom (some n) rest

def readNumber (cs : List Char) : Except Fault (Option Nat × List Char) :=
  readNumberFrom none cs

/-- The separator of thousands: a comma or an underscore, but not both. -/
def readSeparator (cs : List Char) : Except Fault (Option Char × List Char) :=
  let (comma, cs) := takeChar (· = ',') cs
  let (underscore, cs) := takeChar (· = '_') cs
  match comma, underscore, cs with
  | some _, some _, _ => .error .bothSeparators
  | none, some _, ',' :: _ => .error .bothSeparators
  | comma, underscore, _ => .ok (comma.or underscore, cs)

/-- The precision: a point and a number. -/
def readPrecision (cs : List Char) : Except Fault (Option Nat × List Char) :=
  match cs with
  | '.' :: rest =>
    match readNumber rest with
    | .error f => .error f
    | .ok (none, _) => .error .precisionMissing
    | .ok (some n, rest) => .ok (some n, rest)
  | _ => .ok (none, cs)

/-- The codes under which a separator of thousands makes sense. -/
def takesSeparator (separator code : Char) : Bool :=
  ['d', 'e', 'f', 'g', 'E', 'G', '%', 'F', Char.ofNat 0].contains code ||
    (separator = '_' && ['b', 'o', 'x', 'X'].contains code)

/-- What an alignment leaves open, and the kind of value that is laid out. -/
structure AlignmentDefaults where
  code : Char
  align : Char
  kind : String

def AlignmentDefaults.texts : AlignmentDefaults := ⟨'s', '<', "str"⟩

def AlignmentDefaults.wholes : AlignmentDefaults := ⟨'d', '>', "int"⟩

/-- Reads an alignment. A zero before the width fills numbers after their sign. -/
def Alignment.read (defaults : AlignmentDefaults) (spec : List Char) : Except Fault Alignment := do
  let (fill, align, cs) := readAlign spec
  let (sign, cs) := takeChar (fun c => c = ' ' || c = '+' || c = '-') cs
  let (positiveZero, cs) := takeChar (· = 'z') cs
  let (alternate, cs) := takeChar (· = '#') cs
  let (zero, cs) := if fill.isNone then takeChar (· = '0') cs else (none, cs)
  let (width, cs) ← readNumber cs
  let (separator, cs) ← readSeparator cs
  let (precision, cs) ← readPrecision cs
  let code ← match cs with
    | [] => .ok defaults.code
    | [c] => .ok c
    | _ => .error (.alignmentInvalid (String.ofList spec) defaults.kind)
  match separator with
  | some s => if takesSeparator s code then pure () else .error (.separatorRefused s code)
  | none => pure ()
  return {
    fill := (fill.or zero).getD ' '
    align := align.getD (if zero.isSome && defaults.align = '>' then '=' else defaults.align)
    sign, positiveZero := positiveZero.isSome, alternate := alternate.isSome
    width, separator, precision, code }

/-- Refuses what only numbers have. -/
def Alignment.check (a : Alignment) : Except Fault Unit :=
  if a.code ≠ 's' then .error (.codeUnknown a.code)
  else if a.sign = some ' ' then .error .spaceRefused
  else if a.sign.isSome then .error .signRefused
  else if a.positiveZero then .error .negativeZeroRefused
  else if a.alternate then .error .alternateRefused
  else if a.align = '=' then .error .signPaddingRefused
  else .ok ()

/-- The text cut to the precision and filled up to the width. -/
def Alignment.lay (a : Alignment) (text : List Char) : List Char :=
  let shown := match a.precision with
    | some n => text.take n
    | none => text
  let missing := a.width.getD 0 - shown.length
  let left :=
    if a.align = '>' then missing else if a.align = '^' then missing / 2 else 0
  List.replicate left a.fill ++ shown ++ List.replicate (missing - left) a.fill

/-- A text laid out as `spec` says; an empty one changes nothing. -/
def align (spec text : List Char) : Except Fault (List Char) :=
  if spec.isEmpty then .ok text
  else do
    let a ← Alignment.read .texts spec
    a.check
    return a.lay text

/-! ## Whole numbers -/

/-- Digits in groups of a size from the right, parted by a separator. -/
def grouped (separator : Char) (size : Nat) (digits : List Char) : List Char :=
  let part (acc : List Char × Nat) (c : Char) : List Char × Nat :=
    if acc.2 = size then (c :: separator :: acc.1, 1) else (c :: acc.1, acc.2 + 1)
  (digits.reverse.foldl part ([], 0)).1

/-- Digits with as few zeros before them as make them `width` characters long in groups. -/
def groupedUpTo (separator : Char) (size width : Nat) : Nat → List Char → List Char
  | 0, digits => grouped separator size digits
  | fuel + 1, digits =>
    let shown := grouped separator size digits
    if shown.length < width then groupedUpTo separator size width fuel ('0' :: digits) else shown

/-- The mark and the digits of a number in the base that a code names. -/
def wholeDigits (code : Char) (n : Nat) : Except Fault (List Char × List Char) :=
  let digits (base : Nat) := Nat.toDigits base n
  if code = 'd' || code = 'n' then .ok ([], digits 10)
  else if code = 'b' then .ok (['0', 'b'], digits 2)
  else if code = 'o' then .ok (['0', 'o'], digits 8)
  else if code = 'x' then .ok (['0', 'x'], digits 16)
  else if code = 'X' then .ok (['0', 'X'], (digits 16).map Char.toUpper)
  else .error (.wholeCodeUnknown code)

/-- A number as the character with that code point. -/
def Alignment.character (a : Alignment) (n : Nat) : Except Fault (List Char) :=
  if a.sign.isSome then .error .characterSignRefused
  else if a.alternate then .error .characterAlternateRefused
  else if 0x110000 ≤ n then .error .characterBeyond
  else .ok [Char.ofNat n]

/-- The sign, the mark of the base and the digits of a number. -/
def Alignment.wholeParts (a : Alignment) (n : Nat) : Except Fault (List Char × List Char) := do
  if a.code = 'c' then return ([], ← a.character n)
  let (mark, digits) ← wholeDigits a.code n
  let sign := match a.sign with
    | some c => if c = '-' then [] else [c]
    | none => []
  let head := sign ++ if a.alternate then mark else []
  match a.separator with
  | none => return (head, digits)
  | some s =>
    let width := if a.fill = '0' && a.align = '=' then a.width.getD 0 - head.length else 0
    return (head, groupedUpTo s (if a.code = 'd' then 3 else 4) width width digits)

/-- A whole number laid out as `spec` says. -/
def alignWhole (spec : List Char) (n : Nat) : Except Fault (List Char) :=
  if spec.isEmpty then .ok (Nat.toDigits 10 n)
  else do
    let a ← Alignment.read .wholes spec
    if a.precision.isSome then throw .wholePrecisionRefused
    if a.positiveZero then throw .wholeNegativeZeroRefused
    let (head, digits) ← a.wholeParts n
    if a.align = '=' then
      let missing := a.width.getD 0 - (head.length + digits.length)
      return head ++ List.replicate missing a.fill ++ digits
    return a.lay (head ++ digits)

end PatchForge.Format
