import PatchForge.Contribution
import PatchForge.Format.Apply
import PatchForge.Template

/-!
# Rendering

The texts that replace the placeholders of an extension point.

- In fixed mode (`fixedValues`) every record gives one line per
  placeholder.
- In templated mode the records are grouped by the name of the file they
  go to (`groups`), and a file's placeholders come from its group
  (`Group.values`): a list placeholder keeps each distinct value once, any
  other must have the same value for all records.

An include of nothing is dropped in both modes. A placeholder that is
declared twice keeps its first format.
-/

namespace PatchForge

/-- Why an extension point cannot be rendered. -/
inductive RenderFault where
  | format (template point : String) (cause : Format.Fault)
  | conflict (placeholder : Placeholder) (point existing conflicting : String)
  deriving DecidableEq, Repr

def RenderFault.message : RenderFault → String
  | .format template point cause =>
    "Cannot apply format \"" ++ template ++ "\" in extension point \"" ++ point ++ "\": " ++
      cause.message
  | .conflict p point existing conflicting =>
    "The placeholder \"" ++ p.name ++ "\" (" ++ p.format ++ ") is not a List and cannot have " ++
      "multiple entries (the value across all modules must be identical). Got \"" ++ existing ++
      "\" and \"" ++ conflicting ++ "\".\nExtension point:\t" ++ point

/-- The text of a record under a format of an extension point. -/
def formatRecord (template : String) (record : List String) (point : String) :
    Except RenderFault String :=
  (applyFormat template record).mapError (.format template point)

/-- Do two double quotes stand side by side? -/
def holdsEmptyQuotes : List Char → Bool
  | '"' :: '"' :: _ => true
  | _ :: cs => holdsEmptyQuotes cs
  | [] => false

/-- An include directive without a name. -/
def isVacuousInclude (line : String) : Bool :=
  "#include".toList.isPrefixOf line.toList && holdsEmptyQuotes line.toList

/-- A placeholder that takes a list of values. -/
def Placeholder.isList (p : Placeholder) : Bool :=
  "List".toList.isSuffixOf p.name.toList

/-- The placeholders that decide the text of their name: the first of each name. -/
def decisive : List Placeholder → List Placeholder
  | [] => []
  | p :: ps => p :: (decisive ps).filter (·.name ≠ p.name)

/-- The texts of the records under a format, less the includes of nothing. -/
def recordTexts (template point : String) (records : List (List String)) :
    Except RenderFault (List String) :=
  (records.mapM fun r => formatRecord template r point).map
    (·.filter fun line => !isVacuousInclude line)

/-! ## Fixed mode -/

/-- The lines that replace a placeholder, one for each record. -/
def fixedLines (point : String) (p : Placeholder) (records : List (List String)) :
    Except RenderFault String :=
  (recordTexts p.format point records).map fun texts => String.join (texts.map (· ++ "\n"))

/-- The texts of the placeholders in fixed mode. -/
def fixedValues (point : String) (placeholders : List Placeholder)
    (contributions : List Contribution) : Except RenderFault (Dict String String) :=
  (decisive placeholders).mapM fun p =>
    (fixedLines point p (contributions.flatMap (·.records))).map (p.name, ·)

/-- The template text rendered in fixed mode. -/
def renderFixed (text point : String) (placeholders : List Placeholder)
    (contributions : List Contribution) : Except RenderFault String :=
  (fixedValues point placeholders contributions).map (Template.substitute text)

/-! ## Templated mode: groups -/

/-- The records that go to one file. -/
structure Group where
  destination : String
  /-- The template that the file starts from, as the first record named it. -/
  source : String
  records : List (List String)
  deriving DecidableEq, Repr, Inhabited

/-- Adds a record, unless the group has it. -/
def Group.add (g : Group) (record : List String) : Group :=
  if g.records.contains record then g else { g with records := g.records ++ [record] }

/-- Puts a record into the group of its destination, `source` naming the template of a new
group. -/
def addToGroups (destination : String) (source : Except RenderFault String)
    (record : List String) : List Group → Except RenderFault (List Group)
  | [] => source.map fun s => [⟨destination, s, [record]⟩]
  | g :: gs =>
    if g.destination = destination then .ok (g.add record :: gs)
    else (addToGroups destination source record gs).map (g :: ·)

/-- Groups records by destination, each record under every pair of a source format and a
destination format. -/
def groupFrom (point : String) : List Group → List (List String × String × String) →
    Except RenderFault (List Group)
  | groups, [] => .ok groups
  | groups, (record, source, destination) :: rest =>
    match formatRecord destination record point with
    | .error f => .error f
    | .ok name =>
      match addToGroups name (formatRecord source record point) record groups with
      | .error f => .error f
      | .ok groups => groupFrom point groups rest

/-- The source and destination formats of an extension point, paired in order. -/
def ExtensionPoint.formatPairs (p : ExtensionPoint) : List (String × String) :=
  (p.templateSources.getD []).zip (p.templateDestinations.getD [])

/-- The groups of an extension point, in the order in which their destinations first came. -/
def groups (point : String) (pairs : List (String × String))
    (contributions : List Contribution) : Except RenderFault (List Group) :=
  groupFrom point [] <|
    (contributions.flatMap (·.records)).flatMap fun r => pairs.map fun p => (r, p.1, p.2)

/-! ## Templated mode: values -/

/-- The values without repetition, in order of first appearance. -/
def distinct (values : List String) : List String :=
  values.foldl (fun acc v => if acc.contains v then acc else acc ++ [v]) []

/-- The texts of records one after another, joined into what replaces a placeholder. A value
that disagrees with the first one ends the work, so a later format fault is not met. -/
def collectScalar (point : String) (p : Placeholder) :
    Option String → List (List String) → Except RenderFault String
  | found, [] => .ok (found.getD "")
  | found, r :: rs =>
    match formatRecord p.format r point with
    | .error f => .error f
    | .ok value =>
      if isVacuousInclude value then collectScalar point p found rs
      else
        match found with
        | none => collectScalar point p (some value) rs
        | some existing =>
          if value = existing then collectScalar point p found rs
          else .error (.conflict p point existing value)

/-- What replaces a placeholder in a group's file. -/
def groupValue (point : String) (records : List (List String)) (p : Placeholder) :
    Except RenderFault String :=
  if p.isList then
    (recordTexts p.format point records).map fun texts => "\n".intercalate (distinct texts)
  else collectScalar point p none records

/-- The texts of the placeholders in templated mode. -/
def groupValues (point : String) (placeholders : List Placeholder)
    (records : List (List String)) : Except RenderFault (Dict String String) :=
  (decisive placeholders).mapM fun p => (groupValue point records p).map (p.name, ·)

/-- The template text rendered for a group. -/
def renderGroup (text point : String) (placeholders : List Placeholder)
    (records : List (List String)) : Except RenderFault String :=
  (groupValues point placeholders records).map (Template.substitute text)

end PatchForge
