import PatchForge.Workshop

/-!
# The tool's version

The version that was built in, else the installed one, else the one that
a project file declares. A declared version counts only if it is three
numbers with dots between them, perhaps followed by the mark and number
of a pre-release.
-/

namespace PatchForge.Version

/-- The version that the tool was made with. -/
def builtIn : String := "0.3.0"

/-- What stands for a version that is not known. -/
def unknown : String := "unknown"

/-- The text of a declaration after its name: blanks, an equals sign, blanks, and a text between
quote marks of either kind. -/
def declared? (after : List Char) : Option (List Char) :=
  match after.dropWhile Text.isBlank with
  | '=' :: rest =>
    match rest.dropWhile Text.isBlank with
    | q :: rest =>
      if isQuote q then
        let value := rest.takeWhile (!isQuote ·)
        if value.isEmpty || (rest.drop value.length).isEmpty then none else some value
      else none
    | [] => none
  | _ => none
where
  isQuote (c : Char) : Bool := c = '"' || c = '\''

/-- The value of the first line that declares a version. `atLineStart` tells whether the first
character starts a line. -/
def findDeclared? : Bool → List Char → Option (List Char)
  | _, [] => none
  | atLineStart, c :: cs =>
    let here :=
      if atLineStart && "version".toList.isPrefixOf (c :: cs) then
        declared? ((c :: cs).drop "version".length)
      else none
    here.or (findDeclared? (c = '\n') cs)

/-- The text after the digits at the start, of which there must be one. -/
def afterNumber? (cs : List Char) : Option (List Char) :=
  match cs with
  | c :: _ => if Text.isDigit c then some (cs.dropWhile Text.isDigit) else none
  | [] => none

/-- The text after a given text at the start. -/
def after? (word : String) (cs : List Char) : Option (List Char) :=
  if word.toList.isPrefixOf cs then some (cs.drop word.length) else none

/-- The end of a version: nothing, or one line feed. -/
def isEnd (cs : List Char) : Bool := cs.isEmpty || cs = ['\n']

/-- A pre-release: a mark and a number. -/
def afterPreRelease? (cs : List Char) : Option (List Char) :=
  ((after? "a" cs).or ((after? "b" cs).or (after? "rc" cs))).bind afterNumber?

/-- Is a declared text a version? -/
def isVersion (cs : List Char) : Bool :=
  let release := do
    let cs ← afterNumber? cs
    let cs ← afterNumber? (← after? "." cs)
    afterNumber? (← after? "." cs)
  match release with
  | none => false
  | some rest => isEnd rest || ((afterPreRelease? rest).map isEnd).getD false

/-- The version that a project file's text declares. -/
def ofText (text : String) : String :=
  match findDeclared? true text.toList with
  | some value => if isVersion value then String.ofList value else unknown
  | none => unknown

/-- The version that a project file declares; a file that cannot be read declares none. -/
def ofFile (file : Path) : Work String := do
  try
    if ← Work.exists? file then return ofText (← Work.readText file)
    return unknown
  catch _ => return unknown

/-- The tool's version. An empty built-in version is none. -/
def current (builtIn installed : Option String) (file : Path) : Work String :=
  match builtIn, installed with
  | some v, _ => if v = "" then fallBack else pure v
  | none, _ => fallBack
where
  fallBack : Work String :=
    match installed with
    | some v => pure v
    | none => ofFile file

/-- What the tool says about its version. -/
def banner (version : String) : String := "Module Build Tool version " ++ version

end PatchForge.Version
