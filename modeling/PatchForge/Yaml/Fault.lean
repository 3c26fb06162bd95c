import PatchForge.Text.Quoted
import PatchForge.Text.Utf8

/-!
# Why a YAML text gives no value

A text may be malformed: no YAML, a tag nobody knows, or a value of
another shape than its tag asks for. A scalar of the right shape may
still have no value, such as a day that is in no calendar, and a whole
number may be too long to be read or to be shown.
-/

namespace PatchForge.Yaml

inductive Fault where
  | malformed
  /-- an end of the text where more has to come -/
  | cutOff
  /-- bytes that are no text -/
  | undecodable (fault : Text.Utf8Fault)
  /-- collections in collections, more than can be kept apart -/
  | nested
  /-- an escape beyond the last code point -/
  | codePoint
  /-- an escape beyond every code -/
  | codeTooLarge
  | integer (text : String) (base : Nat)
  /-- a whole number of that many digits, too long to be read -/
  | integerTooLong (digits : Nat)
  /-- a whole number that is too long to be shown -/
  | shownTooLong
  | number (text : String)
  /-- a place in base sixty beyond all double-precision numbers -/
  | placeTooLarge
  | year (n : Nat)
  | month
  | day
  | hour
  | minute
  | second
  /-- a time zone a day or more away, in seconds -/
  | zone (seconds : Int)
  /-- a truth value in other words -/
  | truth (text : String)
  /-- a number without characters -/
  | emptyNumber
  /-- a moment that is written like none -/
  | moment
  /-- a mapping instead of a moment's text -/
  | momentMapped
  deriving DecidableEq, Repr

/-- A span of time in the parts that it is shown with. -/
def spanText (seconds : Int) : String :=
  let days := Int.fdiv seconds 86400
  let rest := Int.fmod seconds 86400
  let parts :=
    (if days = 0 then [] else ["days=" ++ Text.decimalInt days]) ++
      (if rest = 0 then [] else ["seconds=" ++ Text.decimalInt rest])
  "datetime.timedelta(" ++ (if parts.isEmpty then "0" else ", ".intercalate parts) ++ ")"

/-- The number of characters of a quoted literal that a message shows. -/
def literalLimit : Nat := 200

/-- A quoted text cut off where messages cut it, which may take its last quote. -/
def cutQuoted (text : String) : String :=
  String.ofList ((Text.quoteChars text.toList).take literalLimit)

def Fault.message : Fault → String
  | .malformed => "the text cannot be read"
  | .cutOff => "the text breaks off"
  | .undecodable fault => fault.message
  | .nested => "maximum recursion depth exceeded"
  | .codePoint => "chr() arg not in range(0x110000)"
  | .codeTooLarge => "Python int too large to convert to C int"
  | .integer text base =>
    "invalid literal for int() with base " ++ Text.decimal base ++ ": " ++ cutQuoted text
  | .integerTooLong digits =>
    "Exceeds the limit (4300 digits) for integer string conversion: value has " ++
      Text.decimal digits ++ " digits; use sys.set_int_max_str_digits() to increase the limit"
  | .shownTooLong =>
    "Exceeds the limit (4300 digits) for integer string conversion; " ++
      "use sys.set_int_max_str_digits() to increase the limit"
  | .number text => "could not convert string to float: " ++ Text.quoted text
  | .placeTooLarge => "int too large to convert to float"
  | .year n => "year " ++ Text.decimal n ++ " is out of range"
  | .month => "month must be in 1..12"
  | .day => "day is out of range for month"
  | .hour => "hour must be in 0..23"
  | .minute => "minute must be in 0..59"
  | .second => "second must be in 0..59"
  | .zone seconds =>
    "offset must be a timedelta strictly between -timedelta(hours=24) and timedelta(hours=24), not "
      ++ spanText seconds ++ "."
  | .truth text => Text.quoted text
  | .emptyNumber => "string index out of range"
  | .moment => "'NoneType' object has no attribute 'groupdict'"
  | .momentMapped => "expected string or bytes-like object, got 'list'"

/-- Faults of a scalar's own value, as opposed to values of the wrong kind. -/
def Fault.isOfValue : Fault → Bool
  | .malformed | .cutOff | .nested | .codeTooLarge | .placeTooLarge | .truth _ | .emptyNumber | .moment |
    .momentMapped => false
  | _ => true

end PatchForge.Yaml
