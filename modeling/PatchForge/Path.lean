import PatchForge.Text.Quoted

/-!
# Paths

A path is where it starts and the names it goes through. Reading a
text drops empty names and single dots, so two texts that differ only in
those are one path; `..` is kept, since what it names depends on the
folders. Two slashes at the start, and no more, are a root of their own.

Paths are ordered by their names from the left, the root counting as the
first name.
-/

namespace PatchForge

/-- Where a path starts. -/
inductive Root where
  | here
  | top
  | doubleTop
  deriving DecidableEq, Repr, Inhabited

def Root.text : Root → String
  | .here => ""
  | .top => "/"
  | .doubleTop => "//"

/-- A path: its start and the names after it. -/
structure Path where
  root : Root
  names : List String
  deriving DecidableEq, Repr, Inhabited

namespace Path

/-- Cuts a text at slashes. -/
def cutSlashes : List Char → List Char → List (List Char)
  | [], name => [name.reverse]
  | '/' :: cs, name => name.reverse :: cutSlashes cs []
  | c :: cs, name => cutSlashes cs (c :: name)

/-- The names of a text: what stands between slashes, less the empty names and single dots. -/
def namesOf (cs : List Char) : List String :=
  ((cutSlashes cs []).filter fun n => !n.isEmpty && n != ['.']).map String.ofList

def rootOf : List Char → Root
  | '/' :: '/' :: '/' :: _ => .top
  | '/' :: '/' :: _ => .doubleTop
  | '/' :: _ => .top
  | _ => .here

/-- The path that a text denotes. -/
def parse (s : String) : Path :=
  ⟨rootOf s.toList, namesOf s.toList⟩

/-- The text of a path; the empty relative path is a dot. -/
def text (p : Path) : String :=
  let body := p.root.text ++ "/".intercalate p.names
  if body = "" then "." else body

/-- The text of a path between quotes. -/
def quoted (p : Path) : String :=
  Text.quoted p.text

def isAbsolute (p : Path) : Bool :=
  p.root ≠ .here

/-- The path `q` as seen from `p`: an absolute `q` stands for itself. -/
def join (p q : Path) : Path :=
  match q.root with
  | .here => ⟨p.root, p.names ++ q.names⟩
  | _ => q

/-- The path that `s` denotes as seen from `p`. -/
def child (p : Path) (s : String) : Path :=
  p.join (parse s)

/-- The path without its last name. -/
def parent (p : Path) : Path :=
  ⟨p.root, p.names.dropLast⟩

/-- The last name, if there is one. -/
def name (p : Path) : String :=
  p.names.getLast?.getD ""

/-! ## Suffixes -/

/-- A name cut before its last dot; a dot at either end of the name cuts nothing. -/
def cutSuffix (name : String) : String × String :=
  let backwards := name.toList.reverse
  let tail := backwards.takeWhile (· ≠ '.')
  match backwards.drop tail.length with
  | '.' :: stem =>
    if tail.isEmpty || stem.isEmpty then (name, "")
    else (String.ofList stem.reverse, String.ofList ('.' :: tail.reverse))
  | _ => (name, "")

/-- The end of the name from its last dot on. -/
def suffix (p : Path) : String :=
  (cutSuffix p.name).2

/-- The path with another suffix, which is added where there is none. -/
def withSuffix (p : Path) (newSuffix : String) : Path :=
  ⟨p.root, p.names.dropLast ++ [(cutSuffix p.name).1 ++ newSuffix]⟩

/-! ## Paths below others -/

/-- The names that lead from `base` to `p`, if `p` starts with `base`. -/
def relativeTo? (p base : Path) : Option Path :=
  if p.root = base.root && base.names.isPrefixOf p.names then
    some ⟨.here, p.names.drop base.names.length⟩
  else none

/-- The path without `..`, each taken together with the name before it. At the top `..`
stays at the top. -/
def collapse (names : List String) : List String :=
  (names.foldl (fun done n => if n = ".." then done.tail else n :: done) []).reverse

/-- The absolute path without `..` that `p` denotes as seen from the absolute path `base`. -/
def resolve (base p : Path) : Path :=
  ⟨.top, collapse (base.join p).names⟩

/-- The same, keeping a root of two slashes. -/
def normalise (base p : Path) : Path :=
  ⟨(base.join p).root, collapse (base.join p).names⟩

/-! ## Order -/

/-- The parts of a path that its order compares. -/
def sortKey (p : Path) : List String :=
  if p.root = .here then p.names else p.root.text :: p.names

/-- Lexicographic order of texts by code point and of lists of texts by their items. -/
def keyLe : List String → List String → Bool
  | [], _ => true
  | _ :: _, [] => false
  | a :: as, b :: bs => if a = b then keyLe as bs else a < b

def le (p q : Path) : Bool :=
  keyLe p.sortKey q.sortKey

/-- The paths in order. -/
def sort (paths : List Path) : List Path :=
  paths.mergeSort le

end Path

end PatchForge
