import PatchForge.Text.Quoted

/-!
# Why a format cannot be applied

The causes for which a format template and a record give no text, and
the wording of each. They fall into three kinds: the template is no
sequence of literals and fields, a field names nothing in the record,
or a field's alignment does not suit a text.
-/

namespace PatchForge.Format

/-- Why a format template cannot be applied to a record. -/
inductive Fault where
  -- the template's own form
  | loneOpen
  | loneClose
  | openInName
  | fieldUnclosed
  | alignmentUnclosed
  | conversionMissing
  | conversionNotEnded
  | nestedTooDeep
  -- what a field names
  | tooManyDigits
  | manualThenAutomatic
  | automaticThenManual
  | unknownName (name : String)
  | slotBeyond (count : Nat)
  | emptyLookup
  | indexUnclosed
  | afterIndex
  | indexNotNumber
  | kindsIndexNotNumber
  /-- a key that a table lacks, as it is shown -/
  | noSuchKey (key : String)
  | memberMissing (kind name : String)
  | kindMemberMissing (kind name : String)
  /-- a member that has no value -/
  | memberUnset (name : String)
  | notIndexed (kind : String)
  | kindNotIndexed (kind : String)
  /-- a kind that has its key already -/
  | notGeneric (shown : String)
  | unknownConversion (letter : Char)
  -- how a field is aligned
  | bothSeparators
  | separatorRefused (separator code : Char)
  | precisionMissing
  | alignmentInvalid (alignment kind : String)
  | codeUnknown (code : Char)
  | spaceRefused
  | signRefused
  | negativeZeroRefused
  | alternateRefused
  | signPaddingRefused
  | wholeCodeUnknown (code : Char)
  | wholePrecisionRefused
  | wholeNegativeZeroRefused
  | characterSignRefused
  | characterAlternateRefused
  | characterBeyond
  | alignmentRefused (kind : String)
  deriving DecidableEq, Repr

/-- A character in a message: as it stands if it is visible ASCII, else by its code point. -/
def visible (limit : Nat) (c : Char) : String :=
  if 32 < c.toNat && c.toNat < limit then String.singleton c
  else "\\x" ++ String.ofList (Text.hex 0 c.toNat)

def Fault.message : Fault → String
  | .loneOpen => "Single '\x7b' encountered in format string"
  | .loneClose => "Single '\x7d' encountered in format string"
  | .openInName => "unexpected '\x7b' in field name"
  | .fieldUnclosed => "expected '\x7d' before end of string"
  | .alignmentUnclosed => "unmatched '\x7b' in format spec"
  | .conversionMissing => "end of string while looking for conversion specifier"
  | .conversionNotEnded => "expected ':' after conversion specifier"
  | .nestedTooDeep => "Max string recursion exceeded"
  | .tooManyDigits => "Too many decimal digits in format string"
  | .manualThenAutomatic =>
    "cannot switch from manual field specification to automatic field numbering"
  | .automaticThenManual =>
    "cannot switch from automatic field numbering to manual field specification"
  | .unknownName name => Text.quoted name
  | .slotBeyond count =>
    "references a slot beyond the " ++ Text.decimal count ++ " declared variable(s)"
  | .emptyLookup => "Empty attribute in format string"
  | .indexUnclosed => "Missing ']' in format string"
  | .afterIndex => "Only '.' or '[' may follow ']' in format field specifier"
  | .indexNotNumber => "string indices must be integers, not 'str'"
  | .kindsIndexNotNumber => "tuple indices must be integers or slices, not str"
  | .noSuchKey key => key
  | .memberMissing kind name => between kind ++ " object has no attribute " ++ between name
  | .kindMemberMissing kind name =>
    "type object " ++ between kind ++ " has no attribute " ++ between name
  | .memberUnset name => name
  | .notIndexed kind => between kind ++ " object is not subscriptable"
  | .kindNotIndexed kind => "type " ++ between kind ++ " is not subscriptable"
  | .notGeneric shown => shown ++ " is not a generic class"
  | .unknownConversion letter => "Unknown conversion specifier " ++ visible 127 letter
  | .bothSeparators => "Cannot specify both ',' and '_'."
  | .separatorRefused separator code =>
    "Cannot specify '" ++ String.singleton separator ++ "' with '" ++ visible 128 code ++ "'."
  | .precisionMissing => "Format specifier missing precision"
  | .alignmentInvalid alignment kind =>
    "Invalid format specifier '" ++ alignment ++ "' for object of type " ++ between kind
  | .codeUnknown code => "Unknown format code '" ++ visible 128 code ++ "' for object of type 'str'"
  | .spaceRefused => "Space not allowed in string format specifier"
  | .signRefused => "Sign not allowed in string format specifier"
  | .negativeZeroRefused => "Negative zero coercion (z) not allowed in string format specifier"
  | .alternateRefused => "Alternate form (#) not allowed in string format specifier"
  | .signPaddingRefused => "'=' alignment not allowed in string format specifier"
  | .wholeCodeUnknown code =>
    "Unknown format code '" ++ visible 128 code ++ "' for object of type 'int'"
  | .wholePrecisionRefused => "Precision not allowed in integer format specifier"
  | .wholeNegativeZeroRefused =>
    "Negative zero coercion (z) not allowed in integer format specifier"
  | .characterSignRefused => "Sign not allowed with integer format specifier 'c'"
  | .characterAlternateRefused => "Alternate form (#) not allowed with integer format specifier 'c'"
  | .characterBeyond => "%c arg not in range(0x110000)"
  | .alignmentRefused kind => "unsupported format string passed to " ++ kind ++ ".__format__"
where
  /-- A name between apostrophes. -/
  between (name : String) : String := "'" ++ name ++ "'"

end PatchForge.Format
