import PatchForge.Yaml.Cursor
import PatchForge.Yaml.Fault
import PatchForge.Json.Reader

/-!
# The texts of scalars

A scalar is written plain, between quotes or as a block of indented
lines. Each way has its rule for what ends the scalar and for lines: a
single line end inside a plain or quoted scalar is folded into a space
(`folded`), a block keeps its lines or folds them.

Each function starts at a cursor and gives the characters read and the
place after them. A scalar uses up a character with every step, so the
number of characters left bounds the steps.
-/

namespace PatchForge.Yaml

/-- A piece of text that was read, and the place after it. -/
abbrev Scanned := Except Fault (List Char × Cursor)

/-- What a line end and the empty lines after it stand for: one line feed alone becomes a
space. -/
def folded (lineEnd : Char) (empty : List Char) : List Char :=
  if lineEnd ≠ '\n' then lineEnd :: empty
  else if empty.isEmpty then [' ']
  else empty

/-! ## Quoted scalars -/

/-- What an escape of one character stands for. -/
def simpleEscape? : Char → Option Char
  | '0' => some (Char.ofNat 0)
  | 'a' => some (Char.ofNat 7)
  | 'b' => some (Char.ofNat 8)
  | 't' => some '\t'
  | '\t' => some '\t'
  | 'n' => some '\n'
  | 'v' => some (Char.ofNat 11)
  | 'f' => some (Char.ofNat 12)
  | 'r' => some '\r'
  | 'e' => some (Char.ofNat 27)
  | ' ' => some ' '
  | '"' => some '"'
  | '\\' => some '\\'
  | '/' => some '/'
  | 'N' => some (Char.ofNat 0x85)
  | '_' => some (Char.ofNat 0xA0)
  | 'L' => some (Char.ofNat 0x2028)
  | 'P' => some (Char.ofNat 0x2029)
  | _ => none

/-- The number of hexadecimal digits after an escape's letter. -/
def codeWidth? : Char → Option Nat
  | 'x' => some 2
  | 'u' => some 4
  | 'U' => some 8
  | _ => none

/-- The number that hexadecimal digits write. -/
def hexNumber? (digits : List Char) : Option Nat :=
  digits.foldlM (fun n d => (Json.hexValue? d).map (n * 16 + ·)) 0

/-- The character that a number of digits at the cursor names. -/
def codeEscape (c : Cursor) (width : Nat) : Scanned :=
  let digits := c.rest.take width
  match hexNumber? digits with
  | none => .error .malformed
  | some code =>
    if digits.length < width then .error .cutOff
    else if 0x80000000 ≤ code then .error .codeTooLarge
    else if 0x110000 ≤ code then .error .codePoint
    else .ok ([Char.ofNat code], c.advance width)

/-- The empty lines after a line end inside quotes; blanks at the start of a line do not count.
A line that parts documents must not come. -/
def quotedBreaks : Nat → Cursor → List Char → Scanned
  | 0, c, found => .ok (found, c)
  | fuel + 1, c, found =>
    if c.atSeparator then .error .malformed
    else
      let c := c.dropWhile isSpace
      match c.lineBreak? with
      | some (lineEnd, after) => quotedBreaks fuel after (found ++ [lineEnd])
      | none => .ok (found, c)

/-- What an escape stands for, from just after the backslash. An escaped line end joins lines. -/
def escapeSequence (c : Cursor) : Scanned :=
  match c.peek with
  | none => .error .cutOff
  | some ch =>
    match simpleEscape? ch, codeWidth? ch, c.lineBreak? with
    | some value, _, _ => .ok ([value], c.next)
    | _, some width, _ => codeEscape c.next width
    | _, _, some (_, after) => quotedBreaks (after.rest.length + 1) after []
    | _, _, _ => .error .malformed

/-- The characters up to a blank, a line end or the closing quote. -/
def quotedRun (double : Bool) : Nat → Cursor → List Char → Scanned
  | 0, c, found => .ok (found, c)
  | fuel + 1, c, found =>
    match c.rest with
    | [] => .ok (found, c)
    | ch :: rest =>
      if isSpace ch || isBreak ch then .ok (found, c)
      else if double && ch = '"' then .ok (found, c)
      else if double && ch = '\\' then
        match escapeSequence c.next with
        | .error f => .error f
        | .ok (value, after) => quotedRun double fuel after (found ++ value)
      else if !double && ch = '\'' then
        if rest.head? = some '\'' then quotedRun double fuel (c.advance 2) (found ++ ['\''])
        else .ok (found, c)
      else quotedRun double fuel c.next (found ++ [ch])

/-- Blanks inside quotes: as they stand within a line, folded at its end. -/
def quotedBlanks (c : Cursor) : Scanned :=
  let (blanks, c) := c.takeWhile isSpace
  match c.lineBreak? with
  | some (lineEnd, after) =>
    (quotedBreaks (after.rest.length + 1) after []).map fun (empty, c) => (folded lineEnd empty, c)
  | none => if c.rest.isEmpty then .error .cutOff else .ok (blanks, c)

/-- The rest of a quoted scalar, its closing quote used up. -/
def quotedFrom (double : Bool) : Nat → Cursor → List Char → Scanned
  | 0, _, _ => .error .malformed
  | fuel + 1, c, found =>
    if c.peek = some (if double then '"' else '\'') then .ok (found, c.next)
    else
      match quotedBlanks c with
      | .error f => .error f
      | .ok (blanks, c) =>
        match quotedRun double (c.rest.length + 1) c (found ++ blanks) with
        | .error f => .error f
        | .ok (found, c) => quotedFrom double fuel c found

/-- A quoted scalar, from its opening quote. -/
def quotedScalar (double : Bool) (c : Cursor) : Scanned :=
  let c := c.next
  match quotedRun double (c.rest.length + 1) c [] with
  | .error f => .error f
  | .ok (found, c) => quotedFrom double (c.rest.length + 1) c found

/-! ## Plain scalars -/

/-- The length of the run of characters that a plain scalar takes without a blank. Inside
brackets it also ends at what parts the items. -/
def plainRun (flow : Bool) : List Char → Nat
  | [] => 0
  | ch :: rest =>
    let colonEnds := endsIndicator rest.head? ||
      (flow && (rest.head?.map (",[]\x7b\x7d".toList.contains ·)).getD false)
    if endsIndicator (some ch) || (ch = ':' && colonEnds) ||
        (flow && ",?[]\x7b\x7d".toList.contains ch) then 0
    else plainRun flow rest + 1

/-- The empty lines after a line end in a plain scalar; nothing if a line that parts documents
comes. -/
def plainBreaks : Nat → Cursor → List Char → Option (List Char) × Cursor
  | 0, c, found => (some found, c)
  | fuel + 1, c, found =>
    if c.peek = some ' ' then plainBreaks fuel c.next found
    else
      match c.lineBreak? with
      | none => (some found, c)
      | some (lineEnd, after) =>
        if after.atSeparator then (none, after)
        else plainBreaks fuel after (found ++ [lineEnd])

/-- What stands between two runs of a plain scalar. -/
structure PlainGap where
  text : List Char
  crossesLine : Bool
  after : Cursor

/-- Blanks in a plain scalar: as they stand within a line, folded at its end. Tabs are none. -/
def plainGap (c : Cursor) : PlainGap :=
  let (blanks, c) := c.takeWhile (· = ' ')
  match c.lineBreak? with
  | none => ⟨blanks, false, c⟩
  | some (lineEnd, after) =>
    if after.atSeparator then ⟨[], true, after⟩
    else
      match plainBreaks (after.rest.length + 1) after [] with
      | (some empty, c) => ⟨folded lineEnd empty, true, c⟩
      | (none, c) => ⟨[], true, c⟩

/-- A plain scalar: its text, the place after it and the blanks that follow, and whether those
end a line. -/
structure PlainScalar where
  text : List Char
  after : Cursor
  endsLine : Bool

/-- The rest of a plain scalar after what was found and a gap. -/
def plainFrom (flow : Bool) (indent : Int) : Nat → PlainScalar → List Char → PlainScalar
  | 0, s, _ => s
  | fuel + 1, s, gap =>
    let c := s.after
    let length := if c.peek = some '#' then 0 else plainRun flow c.rest
    if length = 0 then s
    else
      let g := plainGap (c.advance length)
      let s : PlainScalar := ⟨s.text ++ gap ++ c.rest.take length, g.after, g.crossesLine⟩
      if g.text.isEmpty || g.after.peek = some '#' || (!flow && (g.after.column : Int) < indent)
      then s
      else plainFrom flow indent fuel s g.text

/-- A plain scalar inside a collection that is indented by `indent`. -/
def plainScalar (flow : Bool) (indent : Int) (c : Cursor) : PlainScalar :=
  plainFrom flow (indent + 1) (c.rest.length + 1) ⟨[], c, false⟩ []

/-! ## Block scalars -/

/-- How a block treats the line ends at its end. -/
inductive Chomping where
  | clip
  | strip
  | keep
  deriving DecidableEq, Repr

def chomping? : Option Char → Option Chomping
  | some '+' => some .keep
  | some '-' => some .strip
  | _ => none

/-- A digit from 1 to 9; `0` is an error. -/
def indentDigit (c : Cursor) : Except Fault (Option Nat × Cursor) :=
  match c.peek with
  | some ch =>
    if Text.isAsciiDigit ch then
      if ch = '0' then .error .malformed else .ok (some (ch.toNat - '0'.toNat), c.next)
    else .ok (none, c)
  | none => .ok (none, c)

/-- The indicators after a block's mark, in either order. -/
def blockIndicators (c : Cursor) : Except Fault (Chomping × Option Nat × Cursor) := do
  let (chomping, increment, c) ← match chomping? c.peek with
    | some ch => do
      let (n, c) ← indentDigit c.next
      pure (ch, n, c)
    | none => do
      let (n, c) ← indentDigit c
      match n, chomping? c.peek with
      | some n, some ch => pure (ch, some n, c.next)
      | n, _ => pure (.clip, n, c)
  if endsWord c.peek then return (chomping, increment, c) else throw .malformed

/-- The place on the next line; only blanks and a comment may come before. -/
def restOfLine (c : Cursor) : Except Fault Cursor :=
  let c := c.skipSpaces.skipComment
  match c.lineBreak? with
  | some (_, after) => .ok after
  | none => if c.rest.isEmpty then .ok c else .error .malformed

/-- The empty lines at the start of a block, and the widest column reached. -/
def blockStart : Nat → Cursor → List Char → Nat → List Char × Nat × Cursor
  | 0, c, found, widest => (found, widest, c)
  | fuel + 1, c, found, widest =>
    if c.peek = some ' ' then blockStart fuel c.next found (max widest c.next.column)
    else
      match c.lineBreak? with
      | some (lineEnd, after) => blockStart fuel after (found ++ [lineEnd]) widest
      | none => (found, widest, c)

/-- Steps over blanks up to the column of a block. -/
def skipIndent : Nat → Cursor → Cursor
  | 0, c => c
  | n + 1, c => if c.peek = some ' ' then skipIndent n c.next else c

/-- The empty lines before the next line of a block. -/
def blockBreaks (indent : Nat) : Nat → Cursor → List Char → List Char × Cursor
  | 0, c, found => (found, c)
  | fuel + 1, c, found =>
    let c := skipIndent (indent - c.column) c
    match c.lineBreak? with
    | some (lineEnd, after) => blockBreaks indent fuel after (found ++ [lineEnd])
    | none => (found, c)

/-- A line end as text; none at the end of the text. -/
def lineEndText (c : Cursor) : List Char × Cursor :=
  match c.lineBreak? with
  | some (lineEnd, after) => ([lineEnd], after)
  | none => ([], c)

/-- The lines of a block, each with the empty lines before it. `lineEnd` ends the last line
found, and `empty` are the empty lines after it. -/
def blockLines (fold : Bool) (indent : Nat) (chomping : Chomping) :
    Nat → Cursor → List Char → List Char → List Char → List Char × Cursor
  | 0, c, found, _, _ => (found, c)
  | fuel + 1, c, found, lineEnd, empty =>
    if c.column = indent && !c.rest.isEmpty then
      let startsBlank := (c.peek.map isSpace).getD true
      let (line, c) := c.takeWhile (!isBreak ·)
      let found := found ++ empty ++ line
      let (lineEnd, c) := lineEndText c
      let (empty, c) := blockBreaks indent (c.rest.length + 1) c []
      if c.column = indent && !c.rest.isEmpty then
        let nextBlank := (c.peek.map isSpace).getD true
        let join :=
          if fold && lineEnd = ['\n'] && !startsBlank && !nextBlank then
            if empty.isEmpty then [' '] else []
          else lineEnd
        blockLines fold indent chomping fuel c (found ++ join) lineEnd empty
      else finish found lineEnd empty c
    else finish found lineEnd empty c
where
  finish (found lineEnd empty : List Char) (c : Cursor) : List Char × Cursor :=
    match chomping with
    | .strip => (found, c)
    | .clip => (found ++ lineEnd, c)
    | .keep => (found ++ lineEnd ++ empty, c)

/-- A block scalar, from its mark, in a collection that is indented by `indent`. -/
def blockScalar (fold : Bool) (indent : Int) (c : Cursor) : Scanned := do
  let (chomping, increment, c) ← blockIndicators c.next
  let c ← restOfLine c
  let least := max 1 (indent + 1).toNat
  let fuel := c.rest.length + 1
  match increment with
  | some n =>
    let column := least + n - 1
    let (empty, c) := blockBreaks column fuel c []
    return blockLines fold column chomping fuel c [] [] empty
  | none =>
    let (empty, widest, c) := blockStart fuel c [] 0
    return blockLines fold (max least widest) chomping fuel c [] [] empty

end PatchForge.Yaml
