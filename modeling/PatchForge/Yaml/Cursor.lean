import PatchForge.Text.Blank

/-!
# Places in a YAML text

Indentation carries meaning in YAML, so the reader of a text knows the
line and the column where it stands. A cursor is that place together
with the characters that are left. Lines end at a line feed and at the
line ends of Unicode; a byte order mark takes no column.
-/

namespace PatchForge.Yaml

/-- A place in a text, and the characters from there on. -/
structure Cursor where
  rest : List Char
  index : Nat := 0
  line : Nat := 0
  column : Nat := 0
  deriving Inhabited

/-- Does the character end a line? -/
def isBreak (c : Char) : Bool :=
  c = '\n' || c.toNat == 0x85 || c.toNat == 0x2028 || c.toNat == 0x2029

/-- Spaces and tabs. -/
def isSpace (c : Char) : Bool := c = ' ' || c = '\t'

/-- Nothing, a space, a tab or a line end: what follows an indicator. -/
def endsIndicator : Option Char → Bool
  | none => true
  | some c => isSpace c || isBreak c

/-- Nothing, a space or a line end. -/
def endsWord : Option Char → Bool
  | none => true
  | some c => c = ' ' || isBreak c

def byteOrderMark : Char := Char.ofNat 0xFEFF

namespace Cursor

/-- The next character. -/
def peek (c : Cursor) : Option Char := c.rest.head?

/-- The character after the next `n` ones. -/
def peekAt (c : Cursor) (n : Nat) : Option Char := c.rest[n]?

/-- The place after the next character. -/
def next (c : Cursor) : Cursor :=
  match c.rest with
  | [] => c
  | ch :: rest =>
    if isBreak ch then ⟨rest, c.index + 1, c.line + 1, 0⟩
    else ⟨rest, c.index + 1, c.line, if ch = byteOrderMark then c.column else c.column + 1⟩

/-- The place after the next `n` characters. -/
def advance (c : Cursor) : Nat → Cursor
  | 0 => c
  | n + 1 => c.next.advance n

/-- The characters with a property at the cursor, and the place after them. -/
def takeWhile (c : Cursor) (property : Char → Bool) : List Char × Cursor :=
  let taken := c.rest.takeWhile property
  (taken, c.advance taken.length)

def dropWhile (c : Cursor) (property : Char → Bool) : Cursor := (c.takeWhile property).2

def skipSpaces (c : Cursor) : Cursor := c.dropWhile (· = ' ')

/-- The place after a comment, if one begins here. -/
def skipComment (c : Cursor) : Cursor :=
  if c.peek = some '#' then c.dropWhile (!isBreak ·) else c

/-- The line end at the cursor and the place after it. A next-line character is read as a line
feed. -/
def lineBreak? (c : Cursor) : Option (Char × Cursor) :=
  match c.peek with
  | some ch =>
    if isBreak ch then some (if ch.toNat == 0x85 then '\n' else ch, c.next) else none
  | none => none

/-- Does a line that parts documents begin here, led by three of a character? -/
def atMark (c : Cursor) (ch : Char) : Bool :=
  c.rest.take 3 = [ch, ch, ch] && endsIndicator (c.peekAt 3)

/-- Does a line that parts documents begin here? -/
def atSeparator (c : Cursor) : Bool := c.atMark '-' || c.atMark '.'

end Cursor

/-- The characters that a YAML text may hold. -/
def isAllowed (c : Char) : Bool :=
  let n := c.toNat
  n == 9 || n == 0x0A || n == 0x0D || (0x20 ≤ n && n ≤ 0x7E) || n == 0x85 ||
    (0xA0 ≤ n && n ≤ 0xD7FF) || (0xE000 ≤ n && n ≤ 0xFFFD) || 0x10000 ≤ n

end PatchForge.Yaml
