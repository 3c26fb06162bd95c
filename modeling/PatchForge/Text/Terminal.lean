import PatchForge.Text.Digit

/-!
# Terminal codes

A terminal takes an escape character, a bracket, numbers parted by
semicolons or question marks, and a letter as an order to colour the
text or to move. Where no terminal listens the orders are left out
(`plain`), each where it stands: what comes together around one that is
gone is not looked at again.
-/

namespace PatchForge.Text

def isAsciiLetter (c : Char) : Bool :=
  ('a' ≤ c && c ≤ 'z') || ('A' ≤ c && c ≤ 'Z')

/-- What stands between the bracket of a code and its letter. -/
def isCodeArgument (c : Char) : Bool :=
  isAsciiDigit c || c = ';' || c = '?'

/-- The number of characters of the code at the start of a text; zero if there is none. -/
def codeLength : List Char → Nat
  | '\x1b' :: '[' :: cs =>
    let arguments := cs.takeWhile isCodeArgument
    match cs.drop arguments.length with
    | c :: _ => if isAsciiLetter c then arguments.length + 3 else 0
    | [] => 0
  | _ => 0

/-- A text without its next `n` characters and without the codes after them. -/
def dropCodes : Nat → List Char → List Char
  | _, [] => []
  | n + 1, _ :: cs => dropCodes n cs
  | 0, c :: cs =>
    match codeLength (c :: cs) with
    | 0 => c :: dropCodes 0 cs
    | n + 1 => dropCodes n cs

/-- The text as it is shown where codes mean nothing. -/
def plain (s : String) : String :=
  String.ofList (dropCodes 0 s.toList)

end PatchForge.Text
