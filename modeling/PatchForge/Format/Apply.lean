import PatchForge.Format.Operand
import PatchForge.Format.Piece

/-!
# Applying a format template to a record

A field of a format template stands for a text of the record: the one
at its number, or the next one in turn if it has no number. The two ways
of numbering do not mix. A field may look further into the text (one
character of it), convert it (quote it) and align it; an alignment may
hold fields itself, one level deep.

The pieces take effect from left to right and the first fault wins, so
a slot beyond the record is reported before a later malformed field.
-/

namespace PatchForge.Format

/-! ## Numbering -/

/-- How the fields so far were numbered: `automatic n` has used the first `n` slots. -/
inductive Numbering where
  | unset
  | automatic (used : Nat)
  | manual
  deriving DecidableEq, Repr

/-- What a field's name begins with. -/
inductive Start where
  | next
  | slot (n : Nat)
  | word (name : String)
  deriving DecidableEq, Repr

/-- The number that a name is, if it consists of digits. -/
def nameNumber? : Option Nat → List Char → Except Fault (Option Nat)
  | n, [] => .ok n
  | n, c :: cs =>
    match Text.digitValue? c with
    | none => .ok none
    | some d =>
      match pushDigit (n.getD 0) d with
      | .error f => .error f
      | .ok n => nameNumber? (some n) cs

/-- Tells a number from a word. -/
def readStart (name : List Char) : Except Fault Start :=
  if name.isEmpty then .ok .next
  else
    match nameNumber? none name with
    | .error f => .error f
    | .ok (some n) => .ok (.slot n)
    | .ok none => .ok (.word (String.ofList name))

/-- The slot a field stands for, and the numbering after it. -/
def Numbering.slot (numbering : Numbering) : Start → Except Fault (Nat × Numbering)
  | .next =>
    match numbering with
    | .unset => .ok (0, .automatic 1)
    | .automatic used => .ok (used, .automatic (used + 1))
    | .manual => .error .manualThenAutomatic
  | .slot n =>
    match numbering with
    | .automatic _ => .error .automaticThenManual
    | _ => .ok (n, .manual)
  | .word name => .error (.unknownName name)

/-! ## Looking further -/

/-- A step of looking further into a text, as it is written. -/
inductive Lookup where
  | member (name : List Char)
  | index (key : List Char)
  deriving DecidableEq, Repr

/-- Does a character begin a lookup? -/
def beginsLookup (c : Char) : Bool :=
  c = '.' || c = '['

/-- The lookups after the start of a name, up to the first that is malformed. -/
def readLookups : Nat → List Char → List Lookup × Option Fault
  | 0, _ => ([], none)
  | _, [] => ([], none)
  | fuel + 1, '.' :: cs =>
    let name := cs.takeWhile (!beginsLookup ·)
    if name.isEmpty then ([], some .emptyLookup)
    else
      let (rest, fault) := readLookups fuel (cs.drop name.length)
      (.member name :: rest, fault)
  | fuel + 1, '[' :: cs =>
    let key := cs.takeWhile (· ≠ ']')
    match cs.drop key.length with
    | [] => ([], some .indexUnclosed)
    | _ :: after =>
      -- a number that is too long is found before an empty key could be
      if key.isEmpty then ([], some .emptyLookup)
      else
        let (rest, fault) := readLookups fuel after
        (.index key :: rest, fault)
  | _, _ :: _ => ([], some .afterIndex)

/-- What a lookup finds in an operand. -/
def Operand.step (count : Nat) (operand : Operand) : Lookup → Except Fault Operand
  | .member name => operand.memberAt (String.ofList name)
  | .index key =>
    match nameNumber? none key with
    | .error f => .error f
    | .ok number => operand.part count key number

/-- Follows lookups from an operand, then reports the fault that ended them. -/
def Operand.follow (count : Nat) : Operand → List Lookup → Option Fault → Except Fault Operand
  | operand, [], none => .ok operand
  | _, [], some f => .error f
  | operand, l :: ls, fault =>
    match operand.step count l with
    | .error f => .error f
    | .ok operand => operand.follow count ls fault

/-! ## Fields -/

/-- What a field's name denotes in a record. -/
def lookUp (record : List (List Char)) (numbering : Numbering) (name : List Char) :
    Except Fault (Operand × Numbering) := do
  let start := name.takeWhile (!beginsLookup ·)
  let (n, numbering) ← numbering.slot (← readStart start)
  let text ← match record[n]? with
    | some text => .ok text
    | none => .error (.slotBeyond record.length)
  let after := name.drop start.length
  let (lookups, fault) := readLookups after.length after
  let operand ← (Operand.text text).follow record.length lookups fault
  return (operand, numbering)

/-- The operand after a conversion: `r` quotes it, `a` quotes it in ASCII, `s` keeps it. -/
def convert (operand : Operand) : Option Char → Except Fault Operand
  | none => .ok operand
  | some letter =>
    if letter = 'r' then .ok (.text operand.quoted)
    else if letter = 's' then .ok (.text operand.shown)
    else if letter = 'a' then .ok (.text (Text.asciiChars operand.quoted))
    else .error (.unknownConversion letter)

/-! ## Templates -/

/-- The text of pieces in order, `expand` giving the text of nested alignments. -/
def fill (record : List (List Char))
    (expand : Numbering → List Char → Except Fault (List Char × Numbering)) :
    Numbering → List Piece → Except Fault (List Char × Numbering)
  | numbering, [] => .ok ([], numbering)
  | numbering, .literal text :: pieces => do
    let (rest, numbering) ← fill record expand numbering pieces
    return (text ++ rest, numbering)
  | numbering, .field f :: pieces => do
    let (operand, numbering) ← lookUp record numbering f.name
    let operand ← convert operand f.conversion
    let (spec, numbering) ← if f.nested then expand numbering f.alignment
      else .ok (f.alignment, numbering)
    let text ← operand.align spec
    let (rest, numbering) ← fill record expand numbering pieces
    return (text ++ rest, numbering)

/-- The text of a template whose fields may nest `depth` levels deep, itself included. -/
def applyAt (record : List (List Char)) :
    Nat → Numbering → List Char → Except Fault (List Char × Numbering)
  | 0, _, _ => .error .nestedTooDeep
  | depth + 1, numbering, template => do
    let t := read template
    let result ← fill record (applyAt record depth) numbering t.pieces
    match t.fault with
    | none => return result
    | some f => .error f

/-- The text that a format template makes of a record. -/
def apply (template : List Char) (record : List (List Char)) : Except Fault (List Char) :=
  (applyAt record 2 .unset template).map Prod.fst

end PatchForge.Format

namespace PatchForge

/-- The text that a format template makes of a record of texts. -/
def applyFormat (template : String) (record : List String) : Except Format.Fault String :=
  (Format.apply template.toList (record.map String.toList)).map String.ofList

end PatchForge
