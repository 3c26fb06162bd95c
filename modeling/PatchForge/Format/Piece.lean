import PatchForge.Format.Fault

/-!
# Format templates as pieces

A format template is text with replacement fields between braces; a
doubled brace stands for a brace. `read` cuts a template into pieces,
up to the first place where it is no template: the pieces before that
place and the fault. A field is cut no further here: its name, its
conversion letter and its alignment stay text, and `nested` records
that the alignment holds fields of its own.

The reader is a machine that takes one character at a time, so every
statement about it is an induction over the template.
-/

namespace PatchForge.Format

/-- A replacement field as it is written. -/
structure Field where
  name : List Char
  conversion : Option Char
  alignment : List Char
  nested : Bool
  deriving DecidableEq, Repr

inductive Piece where
  | literal (text : List Char)
  | field (f : Field)
  deriving DecidableEq, Repr

/-- Where the reader is; texts read so far are kept backwards. -/
inductive State where
  | literal (text : List Char)
  | opened (text : List Char)
  | closed (text : List Char)
  | naming (name : List Char)
  | indexing (name : List Char)
  | converting (name : List Char)
  | converted (name : List Char) (letter : Char)
  | aligning (name : List Char) (letter : Option Char) (text : List Char) (depth : Nat)
      (nested : Bool)
  deriving DecidableEq, Repr

/-- One character's effect: pieces that are complete and where the reader is then. -/
abbrev Step := Except Fault (List Piece × State)

/-- A literal that is complete; an empty one is no piece. -/
def literalPiece (text : List Char) : List Piece :=
  if text.isEmpty then [] else [.literal text.reverse]

def fieldPiece (name : List Char) (letter : Option Char) (alignment : List Char) (nested : Bool) :
    List Piece :=
  [.field ⟨name.reverse, letter, alignment.reverse, nested⟩]

/-- A character of a field's name, `before` being what the field ends. -/
def stepName (before : List Piece) (name : List Char) (c : Char) : Step :=
  if c = '\x7b' then .error .openInName
  else if c = '[' then .ok (before, .indexing (c :: name))
  else if c = '\x7d' then .ok (before ++ fieldPiece name none [] false, .literal [])
  else if c = ':' then .ok (before, .aligning name none [] 0 false)
  else if c = '!' then .ok (before, .converting name)
  else .ok (before, .naming (c :: name))

def State.step : State → Char → Step
  | .literal text, c =>
    if c = '\x7b' then .ok ([], .opened text)
    else if c = '\x7d' then .ok ([], .closed text)
    else .ok ([], .literal (c :: text))
  | .opened text, c =>
    if c = '\x7b' then .ok ([], .literal (c :: text))
    else stepName (literalPiece text) [] c
  | .closed text, c =>
    if c = '\x7d' then .ok ([], .literal (c :: text)) else .error .loneClose
  | .naming name, c => stepName [] name c
  | .indexing name, c =>
    .ok ([], if c = ']' then .naming (c :: name) else .indexing (c :: name))
  | .converting name, c => .ok ([], .converted name c)
  | .converted name letter, c =>
    if c = '\x7d' then .ok (fieldPiece name (some letter) [] false, .literal [])
    else if c = ':' then .ok ([], .aligning name (some letter) [] 0 false)
    else .error .conversionNotEnded
  | .aligning name letter text depth nested, c =>
    if c = '\x7b' then .ok ([], .aligning name letter (c :: text) (depth + 1) true)
    else if c = '\x7d' then
      match depth with
      | 0 => .ok (fieldPiece name letter text nested, .literal [])
      | depth + 1 => .ok ([], .aligning name letter (c :: text) depth nested)
    else .ok ([], .aligning name letter (c :: text) depth nested)

/-- What the end of the template means: a last literal, or a fault. -/
def State.finish : State → Except Fault (List Piece)
  | .literal text => .ok (literalPiece text)
  | .opened _ => .error .loneOpen
  | .closed _ => .error .loneClose
  | .naming _ | .indexing _ => .error .fieldUnclosed
  | .converting _ => .error .conversionMissing
  | .converted _ _ | .aligning .. => .error .alignmentUnclosed

/-- A template cut into pieces, and the fault that ended the cutting if one did. -/
structure Template where
  pieces : List Piece
  fault : Option Fault
  deriving DecidableEq, Repr

/-- The literal that stood before a fault has no effect, so it is no piece. -/
def readFrom : State → List Char → Template
  | s, [] =>
    match s.finish with
    | .ok pieces => ⟨pieces, none⟩
    | .error f => ⟨[], some f⟩
  | s, c :: cs =>
    match s.step c with
    | .error f => ⟨[], some f⟩
    | .ok (pieces, s') =>
      let rest := readFrom s' cs
      ⟨pieces ++ rest.pieces, rest.fault⟩

/-- Cuts a template into pieces. -/
def read (template : List Char) : Template :=
  readFrom (.literal []) template

end PatchForge.Format
