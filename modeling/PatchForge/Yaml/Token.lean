import PatchForge.Yaml.Scalar
import PatchForge.Yaml.Source

/-!
# The tokens of a YAML text

A token is an indicator, a property of a node or a scalar. Indentation
shows as tokens too: a block collection begins where an entry or a key
stands further right than the collection around it, and ends before the
first token that does not.

Whether a scalar is a key is known only from the colon after it, so a
lexer keeps the places where a key may have begun (`KeyPlace`) and puts
the key's token there afterwards. Until then the tokens from that place
on are not settled, and a fault further on hides them.
-/

namespace PatchForge.Yaml

/-- A line at the start of a document that says how to read it. -/
inductive Directive where
  | version (major : Nat)
  | handle (handle : String) (tag : String)
  | other
  deriving DecidableEq, Repr

inductive Token where
  | directive (d : Directive)
  | documentStart
  | documentEnd
  | blockSequence
  | blockMapping
  | blockEnd
  | flowSequence
  | flowSequenceEnd
  | flowMapping
  | flowMappingEnd
  /-- the dash before an item -/
  | item
  /-- the comma between items -/
  | comma
  | key
  | value
  /-- a node that was named before -/
  | reference (name : String)
  | anchor (name : String)
  | tag (handle : Option String) (suffix : String)
  | scalar (text : String) (plain : Bool)
  /-- the place where no token could be read -/
  | broken (fault : Fault)
  deriving DecidableEq, Repr

/-- A place where a key may have begun. -/
structure KeyPlace where
  /-- the number of tokens before it -/
  tokens : Nat
  /-- nothing but a key can stand there -/
  required : Bool
  index : Nat
  line : Nat
  column : Nat

/-- The number of characters that a key may take. -/
def keyLimit : Nat := 1024

/-- The tokens read so far and what decides the next one. -/
structure Lexer where
  cursor : Cursor
  tokens : List Token := []
  /-- how many brackets and braces are open -/
  flow : Nat := 0
  /-- the column of the innermost block collection, -1 outside of all -/
  indent : Int := -1
  outer : List Int := []
  keyAllowed : Bool := true
  /-- the places of keys by the number of open brackets -/
  keys : Dict Nat KeyPlace := []

abbrev Lex (α : Type) := StateT Lexer (Except Fault) α

namespace Lexer

def fail {α : Type} : Lex α := throw .malformed

/-- Adds a token that was read up to a place. -/
def emit (t : Token) (after : Cursor) : Lex Unit :=
  modify fun l => { l with tokens := l.tokens ++ [t], cursor := after }

/-- Puts tokens before those that were read after a place. -/
def insertAt (place : Nat) (new : List Token) : Lex Unit :=
  modify fun l => { l with tokens := l.tokens.take place ++ new ++ l.tokens.drop place }

def allowKey (allowed : Bool) : Lex Unit :=
  modify fun l => { l with keyAllowed := allowed }

/-! ## Places of keys -/

def forgetKeys (p : Nat × KeyPlace → Bool) : Lex Unit := do
  let l ← get
  if (l.keys.filter p).any (·.2.required) then fail
  set { l with keys := l.keys.filter (!p ·) }

/-- Gives up the places from which a key cannot reach the cursor. -/
def dropStaleKeys : Lex Unit := do
  let c := (← get).cursor
  forgetKeys fun e => e.2.line ≠ c.line || keyLimit < c.index - e.2.index

/-- Gives up the place at the current depth of brackets. -/
def dropKey : Lex Unit := do
  let flow := (← get).flow
  forgetKeys fun e => e.1 = flow

/-- Notes that a key may begin here. -/
def noteKey : Lex Unit := do
  let l ← get
  let c := l.cursor
  if l.keyAllowed then
    dropKey
    let place : KeyPlace :=
      ⟨l.tokens.length, l.flow = 0 && l.indent = c.column, c.index, c.line, c.column⟩
    modify fun l => { l with keys := l.keys.set l.flow place }

/-! ## Indentation -/

/-- Ends the block collections that are indented further than a column. -/
def unwindFrom (column : Int) : Int → List Int → List Token → Int × List Int × List Token
  | indent, outer, tokens =>
    if indent ≤ column then (indent, outer, tokens)
    else
      match outer with
      | [] => (-1, [], tokens)
      | o :: outer => unwindFrom column o outer (tokens ++ [.blockEnd])
  termination_by _ outer => outer.length

/-- Ends block collections, unless brackets are open. -/
def unwind (column : Int) : Lex Unit :=
  modify fun l =>
    if l.flow = 0 then
      let (indent, outer, tokens) := unwindFrom column l.indent l.outer l.tokens
      { l with indent, outer, tokens }
    else l

/-- Begins a block collection at a column that is further right, with its token at a place. -/
def indentTo (column place : Nat) (t : Token) : Lex Unit := do
  let l ← get
  if l.indent < column then
    set { l with indent := column, outer := l.indent :: l.outer }
    insertAt place [t]

/-- Begins a block collection at the cursor if it stands further right. A line must have
begun. -/
def indentHere (t : Token) : Lex Unit := do
  let l ← get
  if l.flow = 0 then
    if !l.keyAllowed then fail
    indentTo l.cursor.column l.tokens.length t

/-! ## Indicators -/

/-- A token of some characters before which all block collections end. -/
def documentToken (t : Token) (after : Cursor) : Lex Unit := do
  unwind (-1)
  dropKey
  allowKey false
  emit t after

def openFlow (t : Token) : Lex Unit := do
  noteKey
  modify fun l => { l with flow := l.flow + 1 }
  allowKey true
  emit t (← get).cursor.next

/-- A closing bracket; one must be open. -/
def closeFlow (t : Token) : Lex Unit := do
  if (← get).flow = 0 then fail
  dropKey
  modify fun l => { l with flow := l.flow - 1 }
  allowKey false
  emit t (← get).cursor.next

def comma : Lex Unit := do
  allowKey true
  dropKey
  emit .comma (← get).cursor.next

def item : Lex Unit := do
  indentHere .blockSequence
  allowKey true
  dropKey
  emit .item (← get).cursor.next

def key : Lex Unit := do
  indentHere .blockMapping
  allowKey ((← get).flow = 0)
  dropKey
  emit .key (← get).cursor.next

/-- The colon before a value. If a key can have begun before it, that is its key. -/
def value : Lex Unit := do
  let l ← get
  match l.keys.get? l.flow with
  | some place =>
    set { l with keys := l.keys.filter (·.1 ≠ l.flow) }
    insertAt place.tokens [.key]
    if l.flow = 0 then indentTo place.column place.tokens .blockMapping
    allowKey false
  | none =>
    indentHere .blockMapping
    allowKey ((← get).flow = 0)
    dropKey
  emit .value (← get).cursor.next

/-! ## Names -/

def isNameChar (c : Char) : Bool :=
  ('0' ≤ c && c ≤ '9') || ('A' ≤ c && c ≤ 'Z') || ('a' ≤ c && c ≤ 'z') || c = '-' || c = '_'

/-- A name after its mark. -/
def name (c : Cursor) : Except Fault (String × Cursor) :=
  let (taken, after) := c.takeWhile isNameChar
  if taken.isEmpty then .error .malformed else .ok (String.ofList taken, after)

/-- An anchor or a reference: a name with a blank or an indicator after it. -/
def named (make : String → Token) : Lex Unit := do
  noteKey
  allowKey false
  let (text, after) ← name (← get).cursor.next
  let follows := endsIndicator after.peek ||
    (after.peek.map ("?:,]\x7d%@`".toList.contains ·)).getD false
  if follows then emit (make text) after else fail

/-! ## Tags -/

/-- The characters of a tag other than escapes. -/
def isTagChar (c : Char) : Bool :=
  isNameChar c || ";/?:@&=+$,.!~*'()[]".toList.contains c

/-- Bytes that are written as two hexadecimal digits after a percent sign each. -/
def escapedBytes : List Char → Except Fault (List UInt8)
  | '%' :: a :: b :: rest =>
    match hexNumber? [a, b], escapedBytes rest with
    | some n, .ok bytes => .ok (n.toUInt8 :: bytes)
    | _, _ => .error .malformed
  | '%' :: _ => .error .malformed
  | _ => .ok []

/-- The part of a tag after its handle. Escapes that stand together encode characters. -/
def tagPartFrom : Nat → Cursor → List Char → Scanned
  | 0, c, found => .ok (found, c)
  | fuel + 1, c, found =>
    let (taken, c) := c.takeWhile isTagChar
    let found := found ++ taken
    if c.peek = some '%' then
      match escapedBytes c.rest with
      | .error f => .error f
      | .ok bytes =>
        match String.fromUTF8? bytes.toByteArray with
        | some s => tagPartFrom fuel (c.advance (3 * bytes.length)) (found ++ s.toList)
        | none => .error .malformed
    else .ok (found, c)

def tagPart (c : Cursor) : Except Fault (String × Cursor) :=
  match tagPartFrom (c.rest.length + 1) c [] with
  | .error f => .error f
  | .ok (found, after) =>
    if after.index = c.index then .error .malformed else .ok (String.ofList found, after)

/-- A tag's handle: an exclamation mark, or a name between two. -/
def tagHandle (c : Cursor) : Except Fault (String × Cursor) :=
  if c.peek ≠ some '!' then .error .malformed
  else if c.peekAt 1 = some ' ' then .ok ("!", c.next)
  else
    let (taken, after) := c.next.takeWhile isNameChar
    if after.peek = some '!' then .ok (String.ofList ('!' :: taken ++ ['!']), after.next)
    else .error .malformed

/-- Is there a second exclamation mark in the word after the first? -/
def hasHandle (c : Cursor) : Bool :=
  (c.next.takeWhile fun ch => !endsWord (some ch)).1.contains '!'

/-- A tag's handle and suffix: the tag alone between angle brackets, no more than a mark, or a
suffix after a handle. -/
def tagAt (c : Cursor) : Except Fault (Option String × String × Cursor) := do
  if c.peekAt 1 = some '<' then
    let (suffix, after) ← tagPart (c.advance 2)
    if after.peek = some '>' then return (none, suffix, after.next) else throw .malformed
  else if endsIndicator (c.peekAt 1) then return (none, "!", c.next)
  else
    let (handle, after) ← if hasHandle c then tagHandle c else pure ("!", c.next)
    let (suffix, after) ← tagPart after
    return (some handle, suffix, after)

def tag : Lex Unit := do
  noteKey
  allowKey false
  let (handle, suffix, after) ← tagAt (← get).cursor
  if endsWord after.peek then emit (.tag handle suffix) after else fail

/-! ## Directives -/

/-- A number in a directive. -/
def directiveNumber (c : Cursor) : Except Fault (Nat × Cursor) :=
  let (ds, after) := c.takeWhile Text.isAsciiDigit
  if ds.isEmpty then .error .malformed
  else if Json.integerDigitLimit < ds.length then .error (.integerTooLong ds.length)
  else .ok (Json.digitsValue ds, after)

def versionDirective (c : Cursor) : Except Fault (Directive × Cursor) := do
  let (major, c) ← directiveNumber c.skipSpaces
  if c.peek ≠ some '.' then throw .malformed
  let (_, c) ← directiveNumber c.next
  if endsWord c.peek then return (.version major, c) else throw .malformed

def handleDirective (c : Cursor) : Except Fault (Directive × Cursor) := do
  let (handle, c) ← tagHandle c.skipSpaces
  if c.peek ≠ some ' ' then throw .malformed
  let (tag, c) ← tagPart c.skipSpaces
  if endsWord c.peek then return (.handle handle tag, c) else throw .malformed

/-- A directive, from its percent sign, with the line that it takes. -/
def directiveAt (c : Cursor) : Except Fault (Directive × Cursor) := do
  let (text, c) ← name c.next
  if !endsWord c.peek then throw .malformed
  let (d, c) ← match text with
    | "YAML" => versionDirective c
    | "TAG" => handleDirective c
    | _ => pure (.other, c.dropWhile (!isBreak ·))
  return (d, ← restOfLine c)

def directive : Lex Unit := do
  let (d, after) ← directiveAt (← get).cursor
  documentToken (.directive d) after

/-! ## Scalars -/

def block (fold : Bool) : Lex Unit := do
  allowKey true
  dropKey
  let l ← get
  let (text, after) ← blockScalar fold l.indent l.cursor
  emit (.scalar (String.ofList text) false) after

def quoted (double : Bool) : Lex Unit := do
  noteKey
  allowKey false
  let (text, after) ← quotedScalar double (← get).cursor
  emit (.scalar (String.ofList text) false) after

def plain : Lex Unit := do
  noteKey
  let l ← get
  let s := plainScalar (l.flow ≠ 0) l.indent l.cursor
  allowKey s.endsLine
  emit (.scalar (String.ofList s.text) true) s.after

/-! ## The next token -/

/-- Steps over blanks, comments and line ends. A key may begin on a new line. -/
def skipToToken : Nat → Lex Unit
  | 0 => pure ()
  | fuel + 1 => do
    let l ← get
    let c := l.cursor.skipSpaces.skipComment
    match c.lineBreak? with
    | some (_, after) =>
      set { l with cursor := after, keyAllowed := l.flow = 0 || l.keyAllowed }
      skipToToken fuel
    | none => set { l with cursor := c }

/-- Can a plain scalar begin here? -/
def startsPlain (flow : Bool) (c : Cursor) : Bool :=
  match c.peek with
  | none => false
  | some ch =>
    !(endsIndicator (some ch) || "-?:,[]\x7b\x7d#&*!|>'\"%@`".toList.contains ch) ||
      (!endsIndicator (c.peekAt 1) && (ch = '-' || (!flow && (ch = '?' || ch = ':'))))

/-- Reads the token that begins with a character. -/
def tokenAt (ch : Char) : Lex Unit := do
  let l ← get
  let c := l.cursor
  let flow := l.flow ≠ 0
  let ends := endsIndicator (c.peekAt 1)
  let atStart := c.column = 0
  if ch = '%' && atStart then directive
  else if atStart && c.atMark '-' then documentToken .documentStart (c.advance 3)
  else if atStart && c.atMark '.' then documentToken .documentEnd (c.advance 3)
  else if ch = '[' then openFlow .flowSequence
  else if ch = '\x7b' then openFlow .flowMapping
  else if ch = ']' then closeFlow .flowSequenceEnd
  else if ch = '\x7d' then closeFlow .flowMappingEnd
  else if ch = ',' then comma
  else if ch = '-' && ends then item
  else if ch = '?' && (flow || ends) then key
  else if ch = ':' && (flow || ends) then value
  else if ch = '*' then named .reference
  else if ch = '&' then named .anchor
  else if ch = '!' then tag
  else if ch = '|' && !flow then block false
  else if ch = '>' && !flow then block true
  else if ch = '\'' then quoted false
  else if ch = '"' then quoted true
  else if startsPlain flow c then plain
  else fail

/-- Reads the next token; tells whether there was one. -/
def step : Lex Bool := do
  skipToToken ((← get).cursor.rest.length + 1)
  dropStaleKeys
  unwind (← get).cursor.column
  match (← get).cursor.peek with
  | some ch =>
    tokenAt ch
    return true
  | none =>
    unwind (-1)
    dropKey
    return false

/-- Reads the next token and gives up the places that a key can no longer reach from there. -/
def advance : Lex Bool := do
  if ← step then
    dropStaleKeys
    return true
  return false

/-- The tokens before which no token can come any more: those ahead of the first place where a key
may have begun. -/
def settled (l : Lexer) : List Token :=
  l.tokens.take (l.keys.foldl (fun n e => min n e.2.tokens) l.tokens.length)

/-- Reads the next token of a source. A token at whose end the source breaks off is none. -/
def advanceIn (s : Source) (l : Lexer) : Except Fault (Bool × Lexer) :=
  match advance.run l with
  | .ok (more, l) =>
    match s.ending with
    | some f => if l.cursor.rest.isEmpty then .error f else .ok (more, l)
    | none => .ok (more, l)
  | .error .cutOff => .error s.cutOff
  | .error f => .error f

/-- Reads tokens to the end of a source, or to the place where none can be read. Tokens that were
not settled when the place was reached are not given out. -/
def run (s : Source) : Nat → Lexer → List Token
  | 0, l => l.tokens
  | fuel + 1, l =>
    match advanceIn s l with
    | .ok (true, l) => run s fuel l
    | .ok (false, l) => l.tokens
    | .error f => l.settled ++ [.broken f]

end Lexer

/-- The tokens of a text. A byte order mark at its start is no part of it. -/
def tokensOf (s : Source) : List Token :=
  let c : Cursor := { rest := s.text }
  let c := if c.peek = some byteOrderMark then c.next else c
  Lexer.run s (s.text.length + 2) { cursor := c }

end PatchForge.Yaml
