import PatchForge.Text.Blank
import PatchForge.Text.Utf8

/-!
# Text from an open file

A file that is read as it goes is decoded a block of bytes at a time. The
bytes of a character that a block breaks off are kept for the next block,
and so is a carriage return at its end, which may be half a line end. A
fault is placed in the bytes that are decoded together, and the text of
the blocks before it can be read all the same.
-/

namespace PatchForge.Text

/-- The number of bytes in a block. -/
def blockSize : Nat := 8192

/-- The text of a file up to the first fault in it. -/
structure Stream where
  text : List Char
  fault : Option Utf8Fault := none

namespace Stream

/-- Where the character begins that holds the byte at a place. -/
def charStart (bytes : List UInt8) : Nat → Nat
  | 0 => 0
  | n + 1 =>
    match bytes[n + 1]? with
    | some b => if 0x80 ≤ b && b < 0xC0 then charStart bytes n else n + 1
    | none => n + 1

/-- Do bytes begin like half of a surrogate pair, which is no character but has a character's
shape? -/
def isSurrogate : List UInt8 → Bool
  | 0xED :: b :: _ => 0xA0 ≤ b && b < 0xC0
  | _ => false

/-- The place of the byte that shows a fault: for a wrong continuation, the first that should have
been one. Half of a surrogate pair is refused when its third byte comes. -/
def shownBy (bytes : List UInt8) (f : Utf8Fault) : Nat :=
  if isSurrogate (bytes.drop f.position) then f.position + 2
  else if f.reason = .invalidContinuation then f.position + f.count
  else f.position

/-- Where the bytes begin that are decoded together with those of a fault. A file that breaks off
shows it only when no block is left, so its last bytes are decoded alone. -/
def faultBase (bytes : List UInt8) (f : Utf8Fault) : Nat :=
  let shown := shownBy bytes f
  let block := shown - shown % blockSize
  if f.reason = .unexpectedEnd || bytes.length ≤ shown || f.position ≤ block then f.position
  else charStart bytes block

/-- A text whose last carriage return may be half a line end is not read to its end. -/
def withoutHeld (text : List Char) : List Char :=
  if text.getLast? = some '\r' then text.dropLast else text

/-- The text that bytes encode, every line end made a line feed. -/
def ofBytes (bytes : ByteArray) : Stream :=
  match decodeUtf8 bytes with
  | .ok s => ⟨unifyNewlines s.toList, none⟩
  | .error f =>
    let base := faultBase bytes.toList f
    let before := (String.fromUTF8? (bytes.extract 0 base)).getD ""
    ⟨unifyNewlines (withoutHeld before.toList), some { f with position := f.position - base }⟩

end Stream

end PatchForge.Text
