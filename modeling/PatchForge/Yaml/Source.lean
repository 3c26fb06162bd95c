import PatchForge.Text.Stream
import PatchForge.Yaml.Cursor
import PatchForge.Yaml.Fault

/-!
# The text that a lexer gets

A text comes to the lexer a piece at a time, the first two pieces
together. A piece with a character that no YAML text may hold is refused
as a whole, and so is one that ends in bytes that are no text. But it is
read only when the pieces before it are used up, so what is wrong in them
shows first.
-/

namespace PatchForge.Yaml

/-- The characters that can be read, and the fault after them if they are not the whole text. -/
structure Source where
  text : List Char
  ending : Option Fault := none

namespace Source

/-- The number of characters in a piece. -/
def pieceSize : Nat := 4096

/-- How many of a number of characters are in pieces before the one that goes on after them. -/
def before (n : Nat) : Nat :=
  if n < 2 * pieceSize then 0 else n - n % pieceSize

/-- The text up to the piece that goes on after a number of characters, which has a fault. -/
def cut (s : Source) (n : Nat) (f : Fault) : Source :=
  ⟨s.text.take (before n), some f⟩

/-- The text up to the first piece with a character that it may not hold. -/
def checked (s : Source) : Source :=
  match s.text.findIdx? (!isAllowed ·) with
  | some n => s.cut n .malformed
  | none => s

def ofStream (s : Text.Stream) : Source :=
  match s.fault with
  | none => checked ⟨s.text, none⟩
  | some f => checked (cut ⟨s.text, none⟩ s.text.length (.undecodable f))

def ofBytes (bytes : ByteArray) : Source :=
  ofStream (Text.Stream.ofBytes bytes)

/-- What is wrong where the text ends before it may. -/
def cutOff (s : Source) : Fault :=
  s.ending.getD .malformed

end Source

end PatchForge.Yaml
