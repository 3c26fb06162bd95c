import PatchForge.IncludeTable

/-!
# Contributions to an extension point

What every module brings to an extension point, cut down to the
variables that the extension point declares. A module may contribute to
its own extension points. A record that names a header also grants its
contributor's include folder, so that the generated file can include it.
-/

namespace PatchForge

/-- The records one module brings, each as one text per variable. -/
structure Contribution where
  contributor : String
  records : List (List String)
  deriving DecidableEq, Repr, Inhabited

/-- The texts of a record for the variables, in their order; a missing field is empty. -/
def Record.project (record : Record) (names : List String) : List String :=
  names.map fun v => (Dict.get? record v).getD ""

namespace ExtensionPoint

/-- The variable whose value is a header to include. -/
def includeVariable : String := "Include"

/-- What one module brings to the extension point, if it brings anything. -/
def contribution? (point : ExtensionPoint) (m : Module) : Option Contribution :=
  match m.contributions point.name with
  | [] => none
  | records => some ⟨m.name, records.map fun r => Record.project r point.slots⟩

/-- What the modules bring to the extension point, in order. -/
def contributions (point : ExtensionPoint) (modules : List Module) : List Contribution :=
  modules.filterMap point.contribution?

/-- Does the module bring a header to the extension point? -/
def receivesHeader (point : ExtensionPoint) (m : Module) : Bool :=
  point.slots.contains includeVariable &&
    (m.contributions point.name).any fun r => Dict.contains r includeVariable

/-- The include folders that contributors grant to the extension point. -/
def grant (point : ExtensionPoint) (modules : List Module) (table : IncludeTable) :
    IncludeTable :=
  (modules.filter point.receivesHeader).foldl (fun t m => t.add point.name m.includeDir) table

end ExtensionPoint

end PatchForge
