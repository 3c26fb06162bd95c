import PatchForge.Yaml.Fault
import PatchForge.Text.Digit

/-!
# What plain scalars mean

A scalar without a tag or quotes is a number, a truth value, a moment,
nothing or a text by its form alone. `Tag.ofPlain` decides: each kind
has a grammar, and a scalar of no kind is a text.
-/

namespace PatchForge.Yaml

/-- What a node is to be read as. -/
inductive Tag where
  | null
  | bool
  | int
  | float
  | binary
  | timestamp
  | ordered
  | pairs
  | set
  | text
  | sequence
  | mapping
  /-- the key that brings in the entries of other mappings -/
  | merge
  /-- the key of a mapping's own value -/
  | default
  | unknown
  deriving DecidableEq, Repr, Inhabited

namespace Tag

/-- The common start of the tags that are known. -/
def known : String := "tag:yaml.org,2002:"

/-- The known tags by the ends of their names. -/
def names : List (String × Tag) :=
  [("null", .null), ("bool", .bool), ("int", .int), ("float", .float), ("binary", .binary),
   ("timestamp", .timestamp), ("omap", .ordered), ("pairs", .pairs), ("set", .set),
   ("str", .text), ("seq", .sequence), ("map", .mapping), ("merge", .merge), ("value", .default)]

def ofName (name : String) : Tag :=
  ((names.find? fun e => known ++ e.1 = name).map (·.2)).getD .unknown

end Tag

/-! ## Grammars -/

def isBinaryDigit (c : Char) : Bool := c = '0' || c = '1' || c = '_'

def isOctalDigit (c : Char) : Bool := ('0' ≤ c && c ≤ '7') || c = '_'

def isDecimalDigit (c : Char) : Bool := Text.isAsciiDigit c || c = '_'

def isHexDigit (c : Char) : Bool :=
  isDecimalDigit c || ('a' ≤ c && c ≤ 'f') || ('A' ≤ c && c ≤ 'F')

/-- At least one character, all with a property. -/
def someAll (property : Char → Bool) (cs : List Char) : Bool :=
  !cs.isEmpty && cs.all property

def dropSign : List Char → List Char
  | '-' :: cs => cs
  | '+' :: cs => cs
  | cs => cs

/-- The parts of a text between the places of a character. -/
def cutAt (mark : Char) : List Char → List Char → List (List Char)
  | [], part => [part.reverse]
  | c :: cs, part =>
    if c = mark then part.reverse :: cutAt mark cs [] else cutAt mark cs (c :: part)

/-- A number from 0 to 59 in one or two digits. -/
def isSixtieth : List Char → Bool
  | [a] => Text.isAsciiDigit a
  | [a, b] => '0' ≤ a && a ≤ '5' && Text.isAsciiDigit b
  | _ => false

/-- A first part and at least one of sixty's parts after colons. -/
def isSexagesimal (first : List Char → Bool) (cs : List Char) : Bool :=
  match cutAt ':' cs [] with
  | head :: part :: parts => first head && (part :: parts).all isSixtieth
  | _ => false

/-- A decimal digit, then digits that may be parted by underlines. -/
def isWhole : List Char → Bool
  | c :: cs => Text.isAsciiDigit c && cs.all isDecimalDigit
  | [] => false

/-- The same without a zero at the start. -/
def isPlainWhole (cs : List Char) : Bool := isWhole cs && cs.head? ≠ some '0'

def isInt (cs : List Char) : Bool :=
  match dropSign cs with
  | ['0'] => true
  | '0' :: 'b' :: ds => someAll isBinaryDigit ds
  | '0' :: 'x' :: ds => someAll isHexDigit ds
  | '0' :: ds => someAll isOctalDigit ds
  | ds => isPlainWhole ds || isSexagesimal isPlainWhole ds

/-- Nothing, or a letter e, a sign and digits. -/
def isExponent : List Char → Bool
  | [] => true
  | e :: s :: ds =>
    (e = 'e' || e = 'E') && (s = '-' || s = '+') && someAll Text.isAsciiDigit ds
  | _ => false

/-- Digits that may be parted by underlines, and perhaps an exponent. -/
def isFraction (cs : List Char) : Bool := isExponent (cs.dropWhile isDecimalDigit)

def isFloat (cs : List Char) : Bool :=
  let unsigned := dropSign cs
  let whole := unsigned.takeWhile (· ≠ '.')
  match unsigned.drop whole.length with
  | '.' :: fraction =>
    if whole.isEmpty then
      [".inf", ".Inf", ".INF"].contains (String.ofList unsigned) ||
        [".nan", ".NaN", ".NAN"].contains (String.ofList cs) ||
        (cs.head? = some '.' && (fraction.head?.map Text.isAsciiDigit).getD false &&
          isFraction fraction)
    else
      (isWhole whole && isFraction fraction) ||
        (isSexagesimal isWhole whole && fraction.all isDecimalDigit)
  | _ => false

/-- The spellings of a word: in small letters, with a large first letter, in large letters. -/
def spellings (word : String) : List String := [word, word.capitalize, word.toUpper]

def isTruth (s : String) : Bool :=
  (["yes", "no", "true", "false", "on", "off"].flatMap spellings).contains s

def isNull (s : String) : Bool := s = "" || s = "~" || (spellings "null").contains s

/-! ## Moments -/

/-- A moment as it is written. -/
structure WrittenMoment where
  year : List Char
  month : List Char
  day : List Char
  /-- hour, minute, second and what follows the second's point -/
  time : Option (List Char × List Char × List Char × List Char)
  /-- the sign, hours and minutes of the time zone; the sign is `Z` for no distance -/
  zone : Option (Char × List Char × List Char)
  deriving Inhabited

/-- Between `least` and `most` digits at the start, and the rest. -/
def digitsUpTo (least most : Nat) (cs : List Char) : Option (List Char × List Char) :=
  let ds := (cs.take most).takeWhile Text.isAsciiDigit
  if ds.length < least then none else some (ds, cs.drop ds.length)

/-- The rest after a character at the start. -/
def after? (c : Char) : List Char → Option (List Char)
  | d :: cs => if c = d then some cs else none
  | [] => none

/-- A time zone, if there is one. -/
def zone? (cs : List Char) : Option (Option (Char × List Char × List Char)) :=
  match cs.dropWhile fun c => c = ' ' || c = '\t' with
  | ['Z'] => some (some ('Z', [], []))
  | sign :: rest =>
    if sign = '+' || sign = '-' then do
      let (hours, rest) ← digitsUpTo 1 2 rest
      if rest.isEmpty then return some (sign, hours, [])
      let (minutes, rest) ← digitsUpTo 2 2 (← after? ':' rest)
      if rest.isEmpty then return some (sign, hours, minutes) else none
    else none
  | [] => if cs.isEmpty then some none else none

/-- The text after what parts a day from a time: a letter t or blanks. -/
def afterDay? : List Char → Option (List Char)
  | 't' :: cs => some cs
  | 'T' :: cs => some cs
  | c :: cs =>
    if c = ' ' || c = '\t' then some (cs.dropWhile fun c => c = ' ' || c = '\t') else none
  | [] => none

/-- The moment that a text writes. -/
def writtenMoment? (cs : List Char) : Option WrittenMoment := do
  let (year, cs) ← digitsUpTo 4 4 cs
  let (month, cs) ← digitsUpTo 1 2 (← after? '-' cs)
  let (day, cs) ← digitsUpTo 1 2 (← after? '-' cs)
  if cs.isEmpty then return ⟨year, month, day, none, none⟩
  let (hour, cs) ← digitsUpTo 1 2 (← afterDay? cs)
  let (minute, cs) ← digitsUpTo 2 2 (← after? ':' cs)
  let (second, cs) ← digitsUpTo 2 2 (← after? ':' cs)
  let (fraction, cs) := match cs with
    | '.' :: rest => (rest.takeWhile Text.isAsciiDigit, rest.dropWhile Text.isAsciiDigit)
    | _ => ([], cs)
  return ⟨year, month, day, some (hour, minute, second, fraction), ← zone? cs⟩

/-- A day alone has two digits for the month and for the day. -/
def isMoment (cs : List Char) : Bool :=
  match writtenMoment? cs with
  | some m => m.time.isSome || (m.month.length = 2 && m.day.length = 2)
  | none => false

/-! ## The kind of a scalar -/

/-- A text without the line feed at its end. -/
def dropLineFeed (cs : List Char) : List Char :=
  if cs.length > 1 && cs.getLast? = some '\n' then cs.dropLast else cs

/-- What a scalar without a tag is read as. -/
def Tag.ofPlain (text : String) : Tag :=
  let cs := dropLineFeed text.toList
  let s := String.ofList cs
  if isTruth s then .bool
  else if isFloat cs then .float
  else if isInt cs then .int
  else if s = "<<" then .merge
  else if isNull s then .null
  else if isMoment cs then .timestamp
  else if s = "=" then .default
  else if ["!", "&", "*"].contains s then .unknown
  else .text

end PatchForge.Yaml
