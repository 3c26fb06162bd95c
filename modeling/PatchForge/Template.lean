import PatchForge.Dict

/-!
# Template texts and their tokens

A template text holds tokens: a placeholder's name between doubled
braces. `substitute` replaces the tokens that have a value, in one pass
from the left; what it puts in is not looked at again, and unknown
tokens stay. Where two tokens could begin at the same place, the one
whose placeholder comes first wins.
-/

namespace PatchForge.Template

/-- The token of a placeholder. -/
def token (name : List Char) : List Char :=
  '\x7b' :: '\x7b' :: name ++ ['\x7d', '\x7d']

/-- The first entry whose token stands at the start of the text: its token's length and its
value. -/
def match? (values : List (List Char × List Char)) (text : List Char) :
    Option (Nat × List Char) :=
  (values.find? fun e => (token e.1).isPrefixOf text).map fun e => ((token e.1).length, e.2)

/-- Replaces tokens, passing over `skip` characters that belong to a token already replaced. -/
def substituteFrom (values : List (List Char × List Char)) : Nat → List Char → List Char
  | _, [] => []
  | skip + 1, _ :: cs => substituteFrom values skip cs
  | 0, c :: cs =>
    match match? values (c :: cs) with
    | some (length, value) => value ++ substituteFrom values (length - 1) cs
    | none => c :: substituteFrom values 0 cs

/-- The text with the token of every name that has a value replaced by it. -/
def substitute (text : String) (values : Dict String String) : String :=
  String.ofList <|
    substituteFrom (values.map fun e => (e.1.toList, e.2.toList)) 0 text.toList

end PatchForge.Template
