import PatchForge.Yaml.Value

/-!
# The order of a set

A set shows its members in the order of a table. Numbers and truth values
have a fixed mark each, equal ones the same, from which the places follow
where a member may stand: it takes the first that is free. So the order
depends on the marks, on the size of the table, and on which members came
first. Texts have no fixed mark unless they are empty, nor have the other
kinds, and a set with such members keeps the order in which they came.
-/

namespace PatchForge.Yaml

/-- The modulus of marks, one less than a power of two: a factor of `2 ^ 61` makes no
difference. -/
def markModulus : Nat := Binary64.twoPow 61 - 1

/-- The mark of ± m · 2^e; the mark -1 is not used. -/
def markOf (negative : Bool) (m : Nat) (e : Int) : Int :=
  let size := m * Binary64.twoPow (e.emod 61).toNat % markModulus
  if negative then (if size = 1 then -2 else -size) else size

/-- The mark of infinity. -/
def infinityMark : Int := 314159

def Scalar.mark? : Scalar → Option Int
  | .bool b => some (if b then 1 else 0)
  | .int n => some (markOf (n < 0) n.natAbs 0)
  | .float (.finite negative m e) => some (markOf negative m e)
  | .float (.infinite negative) => some (if negative then -infinityMark else infinityMark)
  | .text "" => some 0
  | .bytes [] => some 0
  | _ => none

namespace MemberOrder

/-- The number of places in the table of a number of members: a power of two. -/
def tableSize (members : Nat) : Nat :=
  if members < 5 then 8 else Binary64.twoPow (Binary64.bitLength (2 * members))

/-- The number of places in a row that are looked at, if there are so many. -/
def rowLength : Nat := 10

/-- The first free place from `start` on: in the row that begins there, then from the place that
the mark's higher digits lead to. -/
def freePlace (size : Nat) (taken : List Nat) : Nat → Nat → Nat → Nat
  | 0, start, _ => start
  | fuel + 1, start, mark =>
    let row := if start + rowLength ≤ size then rowLength else 1
    match (List.range row).find? fun k => !taken.contains (start + k) with
    | some k => start + k
    | none =>
      let mark := mark / 32
      freePlace size taken fuel ((start * 5 + 1 + mark) % size) mark

/-- The place that a member with a mark takes. Once the mark's digits are used up, every place
comes in turn. -/
def placeOf (size : Nat) (taken : List Nat) (mark : Int) : Nat :=
  let mark := (mark.emod (Binary64.twoPow 64)).toNat
  freePlace size taken (size + 14) (mark % size) mark

/-- The members with their places. -/
def placed (size : Nat) (members : List (Int × Scalar)) : List (Nat × Scalar) :=
  members.foldl (fun found m => (placeOf size (found.map (·.1)) m.1, m.2) :: found) []

end MemberOrder

/-- The members of a set as it shows them. -/
def inTableOrder (members : List Scalar) : List Scalar :=
  match members.mapM fun m => m.mark?.map (·, m) with
  | some marked =>
    ((MemberOrder.placed (MemberOrder.tableSize members.length) marked).mergeSort
      fun a b => a.1 ≤ b.1).map (·.2)
  | none => members

end PatchForge.Yaml
