import PatchForge.Text.Digit
import PatchForge.Text.Printable

/-!
# Quoted text

The form in which messages show a text unambiguously: between quotes,
with a backslash before what would end it and escapes for what cannot
be seen. Apostrophes are the quotes unless the text holds an apostrophe
and no double quote.
-/

namespace PatchForge.Text

/-- The quote mark chosen for a text. -/
def quoteFor (cs : List Char) : Char :=
  if cs.contains '\'' && !cs.contains '"' then '"' else '\''

/-- The escape of a character by its code point, in the shortest of three widths. -/
def escapeCode (c : Char) : List Char :=
  let n := c.toNat
  if n < 0x100 then '\\' :: 'x' :: hex 2 n
  else if n < 0x10000 then '\\' :: 'u' :: hex 4 n
  else '\\' :: 'U' :: hex 8 n

/-- One character inside quotes `q`. -/
def quoteChar (q c : Char) : List Char :=
  if c = q || c = '\\' then ['\\', c]
  else if c = '\n' then ['\\', 'n']
  else if c = '\r' then ['\\', 'r']
  else if c = '\t' then ['\\', 't']
  else if isPrintable c then [c]
  else escapeCode c

def quoteChars (cs : List Char) : List Char :=
  let q := quoteFor cs
  q :: cs.flatMap (quoteChar q) ++ [q]

/-- The text between quotes. -/
def quoted (s : String) : String :=
  String.ofList (quoteChars s.toList)

/-- A text in which every character outside ASCII is escaped by its code point. -/
def asciiChars (cs : List Char) : List Char :=
  cs.flatMap fun c => if c.toNat < 0x80 then [c] else escapeCode c

end PatchForge.Text
