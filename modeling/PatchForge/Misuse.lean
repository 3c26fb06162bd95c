/-!
# Values used for what they are not

Declarations and configurations are free-form, and some of their values
are used without a check: a number where a list is gone through, a list
where a key is wanted. Each cause here names the kind of the value.
-/

namespace PatchForge

/-- A use that a value's kind does not support. -/
inductive Misuse where
  /-- gone through item by item -/
  | iterated (kind : String)
  /-- asked for a field by name -/
  | asked (kind method : String)
  /-- asked whether it holds a name -/
  | searched (kind : String)
  /-- bytes asked whether they hold a name -/
  | bytesSearched
  /-- a value of that kind indexed by a name -/
  | indexed (kind : String)
  /-- a text indexed by a name -/
  | textIndexed
  /-- a list indexed by a name -/
  | listIndexed
  /-- used as a path -/
  | located (kind : String)
  /-- shown in a table -/
  | tabled (kind : String)
  /-- joined to a path -/
  | joined (kind : String)
  /-- used as a key or an identifier -/
  | keyed (kind : String)
  /-- put together with other texts -/
  | concatenated (kind : String)
  /-- compared in order with a value of another kind -/
  | ordered (left right : String)
  /-- updated with entries that are no mapping -/
  | updated (kind : String)
  /-- nested deeper than the reader goes -/
  | nested
  deriving DecidableEq, Repr

namespace Misuse

/-- The word for a value's kind between apostrophes. -/
def between (kind : String) : String := "'" ++ kind ++ "'"

def message : Misuse → String
  | .iterated kind => between kind ++ " object is not iterable"
  | .asked kind method => between kind ++ " object has no attribute " ++ between method
  | .searched kind => "argument of type " ++ between kind ++ " is not iterable"
  | .bytesSearched => "a bytes-like object is required, not 'str'"
  | .indexed kind => between kind ++ " object is not subscriptable"
  | .textIndexed => "string indices must be integers, not 'str'"
  | .listIndexed => "list indices must be integers or slices, not str"
  | .located kind => "expected str, bytes or os.PathLike object, not " ++ kind
  | .tabled kind =>
    "unable to render " ++ kind ++ "; a string or other renderable object is required"
  | .joined kind => "unsupported operand type(s) for /: 'PosixPath' and " ++ between kind
  | .keyed kind => "unhashable type: " ++ between kind
  | .concatenated kind => "sequence item 0: expected str instance, " ++ kind ++ " found"
  | .ordered left right =>
    "'<' not supported between instances of " ++ between left ++ " and " ++ between right
  | .updated kind => between kind ++ " object is not iterable"
  | .nested => "maximum recursion depth exceeded"

end Misuse

end PatchForge
