import PatchForge.Console
import PatchForge.Failure

/-!
# The workshop

All that the work of the tool reads and changes, as one value: the file
tree and the folder the tool runs in, what it said, the processes it
started and how they end, and the include folders granted so far.

`Work α` is a piece of work with a result of type `α`. A piece of work
that fails still leaves the workshop as it was at that moment, so what
has been written stays written.
-/

namespace PatchForge

/-- How a process ends: it is refused a start, or it says something, in bytes, and exits. -/
structure Outcome where
  refused : Option DiskError := none
  exitCode : Int := 0
  output : ByteArray := .empty
  errorOutput : ByteArray := .empty
  deriving Inhabited

/-- What a process says and what it complains of, as texts, or the first fault in them. -/
def Outcome.texts (o : Outcome) : Except Text.Utf8Fault (String × String) := do
  return (← Text.decodeUtf8 o.output, ← Text.decodeUtf8 o.errorOutput)

structure Workshop where
  disk : Disk
  /-- The folder that relative paths start from. -/
  here : Place
  /-- The folder of the user's own settings. -/
  home : Path := ⟨.top, []⟩
  /-- What was said, one text per notice, earliest first. -/
  said : List String := []
  /-- What was said on the channel for errors. -/
  complained : List String := []
  /-- The processes started, each as its program and arguments. -/
  started : List (List String) := []
  /-- How the next processes end; after the last of these they end well and silent. -/
  outcomes : List Outcome := []
  /-- Programs carry the suffix `.exe`. -/
  windows : Bool := false
  grants : IncludeTable := .empty
  deriving Inhabited

/-- A piece of work: a result or a failure, and the workshop afterwards. -/
abbrev Work (α : Type) := ExceptT Failure (StateM Workshop) α

namespace Work

variable {α : Type}

/-- Does the work in a workshop. -/
def run (work : Work α) (w : Workshop) : Except Failure α × Workshop :=
  work w

def fail (f : Failure) : Work α := throw f

def ofExcept {ε : Type} (toFailure : ε → Failure) : Except ε α → Work α
  | .ok a => pure a
  | .error e => fail (toFailure e)

/-- Says something on the console. -/
def say (n : Notice) : Work Unit :=
  modify fun w => { w with said := w.said ++ [n.shown] }

/-- Says something if told to. -/
def sayIf (verbose : Bool) (n : Notice) : Work Unit :=
  if verbose then say n else pure ()

/-- Shows lines as they are. -/
def print (lines : List String) : Work Unit :=
  modify fun w => { w with said := w.said ++ lines }

/-- Says something on the channel for errors. -/
def complain (text : String) : Work Unit :=
  modify fun w => { w with complained := w.complained ++ [Text.plain text] }

/-! ## Questions about the file tree -/

/-- Does the text hold a null character? -/
def holdsNull (text : String) : Bool :=
  text.toList.contains (Char.ofNat 0)

/-- A path with a null character names nothing and cannot be used. -/
def hasNull (p : Path) : Bool :=
  p.names.any holdsNull

/-- What lies at a path, if anything does. A path that is too long is a failure. -/
def lookUp? (p : Path) : Work (Option Entry) := do
  if hasNull p then return none
  let w ← get
  match w.disk.find w.here p with
  | .ok (_, entry) => return some entry
  | .error .missing | .error .notFolder => return none
  | .error e => fail (.disk e p)

def exists? (p : Path) : Work Bool := do
  return (← lookUp? p).isSome

def isFile (p : Path) : Work Bool := do
  match ← lookUp? p with
  | some (.file _) => return true
  | _ => return false

def isFolder (p : Path) : Work Bool := do
  match ← lookUp? p with
  | some .folder => return true
  | _ => return false

/-- The path without `..`, seen from the top. -/
def resolve (p : Path) : Work Path := do
  if hasNull p then fail .nullCharacter
  return Path.resolve ⟨.top, (← get).here⟩ p

/-- An operation of the file tree that gives a value. -/
def query (p : Path) (operation : Disk → Place → Path → Except DiskError α) : Work α := do
  if hasNull p then fail .nullCharacter
  let w ← get
  match operation w.disk w.here p with
  | .ok a => return a
  | .error e => fail (.disk e p)

/-- An operation of the file tree that changes it. -/
def change (p : Path) (operation : Disk → Place → Path → Except DiskError Disk) : Work Unit := do
  let disk ← query p operation
  modify fun w => { w with disk }

/-! ## Reading -/

def readBytes (p : Path) : Work ByteArray :=
  query p Disk.read

/-- The text of a file as it stands. -/
def readExact (p : Path) : Work String := do
  ofExcept .utf8 (Text.decodeUtf8 (← readBytes p))

/-- The text of a file, every line end made a line feed. -/
def readText (p : Path) : Work String := do
  return String.ofList (Text.unifyNewlines (← readExact p).toList)

/-- The same without a byte order mark at the start of the file. -/
def readMarkedText (p : Path) : Work String := do
  let s ← ofExcept .utf8 (Text.decodeMarkedUtf8 (← readBytes p))
  return String.ofList (Text.unifyNewlines s.toList)

/-- The entries of a folder, in order. -/
def children (p : Path) : Work (List Path) := do
  return Path.sort ((← query p Disk.list).map fun name => ⟨p.root, p.names ++ [name]⟩)

/-- The paths below a folder, in order; none if there is no such folder. Each folder among them
is opened by its full path, so one whose path is too long is a failure. Of several the failure
is about the first in order. -/
def below (p : Path) : Work (List Path) := do
  if !(← isFolder p) then return []
  let w ← get
  match w.disk.find w.here p with
  | .ok (place, _) =>
    let found := ((w.disk.below place).map fun e =>
      ((⟨p.root, p.names ++ e.1⟩ : Path), e.2)).mergeSort fun a b => a.1.le b.1
    match found.find? fun e => e.2 = .folder && decide e.1.TooLong with
    | some e => fail (.disk .nameTooLong e.1)
    | none => return found.map (·.1)
  | .error _ => return []

/-! ## Writing -/

def write (p : Path) (content : ByteArray) : Work Unit :=
  change p fun d here p => d.write here p content

def writeText (p : Path) (text : String) : Work Unit :=
  write p text.toUTF8

def unlink (p : Path) : Work Unit :=
  change p Disk.unlink

def removeTree (p : Path) : Work Unit := do
  if hasNull p then fail .nullCharacter
  let w ← get
  match w.disk.removeTree w.here p with
  | .ok disk => set { w with disk }
  | .error .notFolder => fail (.notRemovable p)
  | .error e => fail (.disk e p)

/-- Makes a folder that must not be there. -/
def makeFolder (p : Path) : Work Unit :=
  change p Disk.makeFolder

/-- Makes a folder and those above it, unless they are there. `fuel` bounds how far up. -/
def makeFoldersFrom : Nat → Path → Work Unit
  | 0, p => settle p
  | fuel + 1, p => do
    try makeFolder p
    catch
    | .disk .missing q =>
      if p.parent = p then fail (.disk .missing q)
      makeFoldersFrom fuel p.parent
      settle p
    | f => accept p f
where
  /-- A folder that is already there is as good as a new one. -/
  accept (p : Path) (f : Failure) : Work Unit := do
    match f with
    | .disk .. => if ← isFolder p then pure () else fail f
    | f => fail f
  settle (p : Path) : Work Unit := do
    try makeFolder p catch f => accept p f

def makeFolders (p : Path) : Work Unit :=
  makeFoldersFrom (p.names.length + 1) p

/-- Copies a file over another. The two must not be one file. -/
def copyFile (source target : Path) : Work Unit := do
  if hasNull source || hasNull target then fail .nullCharacter
  let w ← get
  match w.disk.find w.here source, w.disk.find w.here target with
  | .ok (a, _), .ok (b, _) => if a = b then fail (.sameFile source target)
  | _, _ => pure ()
  let content ← readBytes source
  write target content

/-! ## Processes -/

/-- Shows the lines that are not empty. -/
def sayLines : List String → Work Unit
  | [] => pure ()
  | line :: rest => do
    if line ≠ "" then say (.plain line none "white" false)
    sayLines rest

/-- Starts a program, shows what it says and gives its exit code. A call with a null character
is refused before anything is started. What the process says is read whole before any of it is
shown, so bytes that are no text are a failure whatever the exit code. Line ends other than line
feeds end lines too and need no rewriting. -/
def start (program : String) (arguments : List String) : Work Int := do
  if (program :: arguments).any holdsNull then fail .nullCharacter
  let w ← get
  let outcome := w.outcomes.headD {}
  set { w with started := w.started ++ [program :: arguments], outcomes := w.outcomes.tail }
  match outcome.refused with
  | some e => fail (.toolchain (.notStarted program e))
  | none =>
    let (output, errorOutput) ← ofExcept .utf8 outcome.texts
    sayLines (Text.lines output)
    sayLines (Text.lines errorOutput)
    return outcome.exitCode

end Work

end PatchForge
