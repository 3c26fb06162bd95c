import PatchForge.Json.Reader
import PatchForge.Number.Binary64
import PatchForge.Text.Blank
import PatchForge.Text.SmallLetter
import PatchForge.Yaml.Resolution

/-!
# The numbers of scalars

Integers are written in base two, eight, ten or sixteen, and numbers of
either kind in base sixty with colons between the digits. Underlines
between digits do not count. A scalar that is tagged as a number without
being written like one is a fault.
-/

namespace PatchForge.Yaml

/-- The value of a digit in some base: a decimal digit of any script, or a letter. -/
def digitIn? (base : Nat) (c : Char) : Option Nat :=
  let n :=
    if 'a' ≤ c && c ≤ 'z' then some (c.toNat - 'a'.toNat + 10)
    else if 'A' ≤ c && c ≤ 'Z' then some (c.toNat - 'A'.toNat + 10)
    else Text.digitValue? c
  n.filter (· < base)

/-- The sign at the start of a text, and the rest. -/
def signOf : List Char → Bool × List Char
  | '-' :: cs => (true, cs)
  | '+' :: cs => (false, cs)
  | cs => (false, cs)

def signed (negative : Bool) (n : Int) : Int := if negative then -n else n

/-- The digits after the mark of a base, which may be left out. -/
def afterBaseMark (base : Nat) : List Char → List Char
  | '0' :: c :: cs =>
    let marks := if base = 2 then "bB" else if base = 8 then "oO" else if base = 16 then "xX" else ""
    if marks.toList.contains c then cs else '0' :: c :: cs
  | cs => cs

/-- Blanks that may stand around a number: all but the information separators. -/
def isOuterBlank (c : Char) : Bool :=
  Text.isBlank c && !(28 ≤ c.toNat && c.toNat ≤ 31)

/-- The text without the blanks that may stand around a number. -/
def trimOuter (cs : List Char) : List Char :=
  ((cs.dropWhile isOuterBlank).reverse.dropWhile isOuterBlank).reverse

/-- An integer in some base, with blanks around it and a sign before it if need be. In base ten too
many digits are a fault whatever comes after them. -/
def integerIn (base : Nat) (cs : List Char) : Except Fault Int :=
  let (negative, ds) := signOf (trimOuter cs)
  let ds := afterBaseMark base ds
  let length := (ds.takeWhile fun c => (digitIn? base c).isSome).length
  if base = 10 && Json.integerDigitLimit < length then .error (.integerTooLong length)
  else
    match ds.mapM (digitIn? base) with
    | none | some [] => .error (.integer (String.ofList cs) base)
    | some values => .ok (signed negative (values.foldl (fun n d => n * base + d) 0 : Nat))

/-- The integer that a scalar writes. -/
def integerOf (text : String) : Except Fault Int :=
  let (negative, cs) := signOf (text.toList.filter (· ≠ '_'))
  let read : Except Fault Int := match cs with
    | ['0'] => .ok 0
    | '0' :: 'b' :: ds => integerIn 2 ds
    | '0' :: 'x' :: ds => integerIn 16 ds
    | '0' :: _ => integerIn 8 cs
    | [] => .error .emptyNumber
    | _ =>
      if cs.contains ':' then
        ((cutAt ':' cs []).mapM (integerIn 10)).map fun parts =>
          parts.foldl (fun n d => n * 60 + d) 0
      else integerIn 10 cs
  read.map (signed negative)

/-! ## Numbers with a fraction -/

/-- The value of decimal digits of any script. -/
def decimalValue? (ds : List Char) : Option Nat :=
  (ds.mapM Text.digitValue?).map (·.foldl (fun n d => n * 10 + d) 0)

/-- An exponent after its letter: a sign if need be, and digits. -/
def exponent? (cs : List Char) : Option Int :=
  let (negative, ds) := signOf cs
  if ds.isEmpty then none else (decimalValue? ds).map fun n => signed negative n

/-- A decimal without a sign: digits, perhaps with a point among them, and perhaps an
exponent. -/
def decimal? (negative : Bool) (cs : List Char) : Option Binary64 := do
  let isLetter (c : Char) := c = 'e' || c = 'E'
  let mantissa := cs.takeWhile (!isLetter ·)
  let e ← match cs.drop mantissa.length with
    | [] => some 0
    | _ :: rest => exponent? rest
  let whole := mantissa.takeWhile (· ≠ '.')
  let fraction := (mantissa.drop whole.length).drop 1
  if whole.isEmpty && fraction.isEmpty then none
  let m ← decimalValue? (whole ++ fraction)
  return Binary64.ofDecimal negative m (e - fraction.length)

/-- A number with blanks around it and a sign before it if need be; infinity and the
not-a-number go by their names. -/
def realIn (cs : List Char) : Except Fault Binary64 :=
  let (negative, body) := signOf (trimOuter cs)
  let name := (String.ofList body).toLower
  if name = "inf" || name = "infinity" then .ok (.infinite negative)
  else if name = "nan" then .ok .nan
  else
    match decimal? negative body with
    | some x => .ok x
    | none => .error (.number (String.ofList cs))

/-- The number that base sixty digits make, the last of which comes first and counts `place`. Every
place, product and sum is rounded. -/
def sexagesimalFrom (sum : Binary64) : Nat → List Binary64 → Except Fault Binary64
  | _, [] => .ok sum
  | place, d :: ds =>
    match Binary64.ofRatio false place 1 with
    | .finite _ m e => sexagesimalFrom (sum.add (d.mul (.finite false m e))) (place * 60) ds
    | _ => .error .placeTooLarge

def sexagesimal (digits : List Binary64) : Except Fault Binary64 :=
  sexagesimalFrom Binary64.zero 1 digits.reverse

/-- The characters of a number that count, in small letters. -/
def realChars (text : String) : List Char :=
  Text.lowerFrom [] (text.toList.filter (· ≠ '_'))

/-- Does a scalar write the not-a-number by its name? -/
def namesNotANumber (text : String) : Bool :=
  (signOf (realChars text)).2 = ".nan".toList

/-- The number that a scalar writes. -/
def realOf (text : String) : Except Fault Binary64 :=
  let written := realChars text
  let (negative, cs) := signOf written
  let read : Except Fault Binary64 :=
    if written.isEmpty then .error .emptyNumber
    else if cs = ".inf".toList then .ok (.infinite false)
    else if cs = ".nan".toList then .ok .nan
    else if cs.contains ':' then (cutAt ':' cs []).mapM realIn >>= sexagesimal
    else realIn cs
  read.map fun x => if negative then x.neg else x

end PatchForge.Yaml
