/-!
# Double-precision numbers

A number with 53 significant bits, as its exact value: `finite` is
± m · 2^e with m below 2^53 and e at least -1074, and m fills its 53
bits unless e is -1074. So every number has one representation and
equality of representations is equality of numbers, the two zeros and
the not-a-number apart.

`ofDecimal` reads a decimal exactly: the nearest such number, a tie
going to the even one, and infinity from half a unit beyond the largest.
-/

namespace PatchForge

/-- A double-precision number. -/
inductive Binary64 where
  | finite (negative : Bool) (m : Nat) (e : Int)
  | infinite (negative : Bool)
  | nan
  deriving DecidableEq, Repr, Inhabited

namespace Binary64

/-- `2 ^ n`. -/
def twoPow (n : Nat) : Nat := Nat.pow 2 n

/-- `10 ^ n`. -/
def tenPow (n : Nat) : Nat := Nat.pow 10 n

/-- The number of binary digits of `n`. -/
def bitLength (n : Nat) : Nat :=
  if n = 0 then 0 else n.log2 + 1

/-- The integer nearest to `num / den`, a tie going to the even one. -/
def roundDiv (num den : Nat) : Nat :=
  let q := num / den
  let r := num % den
  if 2 * r < den then q
  else if den < 2 * r then q + 1
  else if q % 2 = 0 then q else q + 1

/-- `num / den` as a numerator and denominator scaled by `2 ^ (-e)`. -/
def scaled (num den : Nat) (e : Int) : Nat × Nat :=
  if 0 ≤ e then (num, den * twoPow e.toNat) else (num * twoPow (-e).toNat, den)

/-- The number nearest to the positive ratio `num / den`. -/
def ofRatio (negative : Bool) (num den : Nat) : Binary64 :=
  let guess : Int := max ((bitLength num : Int) - bitLength den - 53) (-1074)
  let s := scaled num den guess
  let e := if twoPow 53 ≤ s.1 / s.2 then guess + 1 else guess
  let t := scaled num den e
  let m := roundDiv t.1 t.2
  let (m, e) := if m = twoPow 53 then (twoPow 52, e + 1) else (m, e)
  if 971 < e then .infinite negative else .finite negative m e

/-- The number nearest to ± m · 10^e. Beyond the range of the format only the
order of magnitude counts, so powers of ten stay small. -/
def ofDecimal (negative : Bool) (m : Nat) (e : Int) : Binary64 :=
  let magnitude : Int := (bitLength m : Int) * 30103 / 100000 + e
  if m = 0 then .finite negative 0 (-1074)
  else if 400 < magnitude then .infinite negative
  else if magnitude < -400 then .finite negative 0 (-1074)
  else if 0 ≤ e then ofRatio negative (m * tenPow e.toNat) 1
  else ofRatio negative m (tenPow (-e).toNat)

/-! ## Arithmetic -/

def neg : Binary64 → Binary64
  | .finite negative m e => .finite (!negative) m e
  | .infinite negative => .infinite (!negative)
  | .nan => .nan

/-- The number nearest to n · 2^e. -/
def ofScaled (n e : Int) : Binary64 :=
  if n = 0 then .finite false 0 (-1074)
  else if 0 ≤ e then ofRatio (n < 0) (n.natAbs * twoPow e.toNat) 1
  else ofRatio (n < 0) n.natAbs (twoPow (-e).toNat)

def zero : Binary64 := .finite false 0 (-1074)

/-- The product, rounded. -/
def mul : Binary64 → Binary64 → Binary64
  | .finite a m e, .finite b n f =>
    if m = 0 || n = 0 then .finite (a != b) 0 (-1074)
    else ofScaled (if a != b then -(m * n : Int) else m * n) (e + f)
  | .infinite a, .infinite b => .infinite (a != b)
  | .infinite a, .finite b n _ => if n = 0 then .nan else .infinite (a != b)
  | .finite a m _, .infinite b => if m = 0 then .nan else .infinite (a != b)
  | _, _ => .nan

/-- The sum, rounded. A sum of nothing but negative zeros is a negative zero. -/
def add : Binary64 → Binary64 → Binary64
  | .finite a m e, .finite b n f =>
    if m = 0 && n = 0 then .finite (a && b) 0 (-1074)
    else
      let low := min e f
      let part (negative : Bool) (m : Nat) (e : Int) : Int :=
        let whole : Int := (m * twoPow (e - low).toNat : Nat)
        if negative then -whole else whole
      ofScaled (part a m e + part b n f) low
  | .infinite a, .infinite b => if a = b then .infinite a else .nan
  | .infinite a, .finite .. => .infinite a
  | .finite .., .infinite b => .infinite b
  | _, _ => .nan

def isZero : Binary64 → Bool
  | .finite _ m _ => m = 0
  | _ => false

/-- The integer that a number equals, if it is whole. -/
def toInt? : Binary64 → Option Int
  | .finite negative m e =>
    let whole : Option Nat :=
      if 0 ≤ e then some (m * twoPow e.toNat)
      else if m % twoPow (-e).toNat = 0 then some (m / twoPow (-e).toNat) else none
    whole.map fun n => if negative then -(n : Int) else n
  | _ => none

end Binary64

end PatchForge
