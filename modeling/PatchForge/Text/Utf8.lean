import PatchForge.Text.Digit

/-!
# UTF-8

Reading bytes as text. A byte string is a text or it has a first fault:
the bytes from which no character can be read, and why. The fault covers
the bytes that could still have begun a character, so a cut-off sequence
is reported as a range.
-/

namespace PatchForge.Text

/-- Why no character could be read. -/
inductive Utf8Reason where
  | invalidStart
  | invalidContinuation
  | unexpectedEnd
  deriving DecidableEq, Repr

/-- The first bytes that are no character: `count` of them from `position`, led by `lead`. -/
structure Utf8Fault where
  lead : UInt8
  position : Nat
  count : Nat
  reason : Utf8Reason
  deriving DecidableEq, Repr

def Utf8Reason.text : Utf8Reason → String
  | .invalidStart => "invalid start byte"
  | .invalidContinuation => "invalid continuation byte"
  | .unexpectedEnd => "unexpected end of data"

def Utf8Fault.message (f : Utf8Fault) : String :=
  let place :=
    if f.count = 1 then
      "byte 0x" ++ String.ofList (hex 2 f.lead.toNat) ++ " in position " ++ decimal f.position
    else
      "bytes in position " ++ decimal f.position ++ "-" ++ decimal (f.position + f.count - 1)
  "'utf-8' codec can't decode " ++ place ++ ": " ++ f.reason.text

/-- The bytes that may follow a lead byte: how many, and the bounds of the first of them. -/
def continuation? (lead : UInt8) : Option (Nat × UInt8 × UInt8) :=
  if lead < 0x80 then some (0, 0x80, 0xBF)
  else if lead < 0xC2 then none
  else if lead < 0xE0 then some (1, 0x80, 0xBF)
  else if lead = 0xE0 then some (2, 0xA0, 0xBF)
  else if lead = 0xED then some (2, 0x80, 0x9F)
  else if lead < 0xF0 then some (2, 0x80, 0xBF)
  else if lead = 0xF0 then some (3, 0x90, 0xBF)
  else if lead < 0xF4 then some (3, 0x80, 0xBF)
  else if lead = 0xF4 then some (3, 0x80, 0x8F)
  else none

/-- The character being read when a byte arrives: its lead, where it began, how many of its
bytes are read, how many are missing, and the bounds of the next one. -/
structure Utf8Partial where
  lead : UInt8
  start : Nat
  read : Nat
  missing : Nat
  low : UInt8
  high : UInt8

/-- Begins a character at byte `b`. -/
def beginChar (position : Nat) (b : UInt8) : Except Utf8Fault (Option Utf8Partial) :=
  match continuation? b with
  | none => .error ⟨b, position, 1, .invalidStart⟩
  | some (0, _, _) => .ok none
  | some (n, low, high) => .ok (some ⟨b, position, 1, n, low, high⟩)

/-- The first fault in the bytes, read from `position` with `pending` unfinished. -/
def utf8FaultFrom : Nat → Option Utf8Partial → List UInt8 → Option Utf8Fault
  | _, none, [] => none
  | _, some p, [] => some ⟨p.lead, p.start, p.read, .unexpectedEnd⟩
  | position, none, b :: bs =>
    match beginChar position b with
    | .error f => some f
    | .ok pending => utf8FaultFrom (position + 1) pending bs
  | position, some p, b :: bs =>
    if p.low ≤ b && b ≤ p.high then
      let pending :=
        if p.missing = 1 then none
        else some { p with read := p.read + 1, missing := p.missing - 1, low := 0x80, high := 0xBF }
      utf8FaultFrom (position + 1) pending bs
    else some ⟨p.lead, p.start, p.read, .invalidContinuation⟩

/-- The text that the bytes encode, or the first fault. -/
def decodeUtf8 (bytes : ByteArray) : Except Utf8Fault String :=
  match String.fromUTF8? bytes with
  | some s => .ok s
  | none =>
    .error ((utf8FaultFrom 0 none bytes.toList).getD ⟨0, 0, 1, .invalidStart⟩)

/-- The byte order mark, which a reader may skip at the start of a file. -/
def byteOrderMark : List UInt8 := [0xEF, 0xBB, 0xBF]

/-- The text that the bytes encode, less a byte order mark at their start. A file that breaks
off inside the mark is empty, and faults are counted from after the mark. -/
def decodeMarkedUtf8 (bytes : ByteArray) : Except Utf8Fault String :=
  let list := bytes.toList
  if byteOrderMark.isPrefixOf list then decodeUtf8 (list.drop 3).toByteArray
  else if list.isPrefixOf byteOrderMark then .ok ""
  else decodeUtf8 bytes

end PatchForge.Text
