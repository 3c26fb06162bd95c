import PatchForge.Number.Binary64
import PatchForge.Text.Digit

/-!
# Shortest decimal text

The decimal text of a double-precision number: the fewest significant
digits that still read back as the same number and, of those, the
nearest to it. `shortest` finds the digits by exact arithmetic: for
1, 2, … 17 digits it tests the two neighbours of the value on that
decimal grid against the interval of reals that round to the number.
-/

namespace PatchForge.Binary64

/-- The reals that round to a number, with the number itself, over one denominator. The
ends belong to the interval when the significand is even. -/
structure Interval where
  low : Nat
  value : Nat
  high : Nat
  den : Nat
  closed : Bool

/-- The interval of m · 2^e. Below a power of two the numbers lie twice as dense. -/
def interval (m : Nat) (e : Int) : Interval :=
  let lower := if m = twoPow 52 ∧ -1074 < e then 1 else 2
  let (unit, den) := if 0 ≤ e then (twoPow e.toNat, 1) else (1, twoPow (-e).toNat)
  ⟨(4 * m - lower) * unit, 4 * m * unit, (4 * m + 2) * unit, 4 * den, m % 2 = 0⟩

/-- Does `n · 10^k` lie in the interval? -/
def Interval.holds (i : Interval) (n : Nat) (k : Int) : Bool :=
  let (a, d) := if 0 ≤ k then (n * tenPow k.toNat * i.den, 1) else (n * i.den, tenPow (-k).toNat)
  if i.closed then i.low * d ≤ a && a ≤ i.high * d else i.low * d < a && a < i.high * d

/-- The value in units of `10^k`, rounded down, and whether the upper neighbour is nearer. A
tie goes to the even neighbour. -/
def Interval.grid (i : Interval) (k : Int) : Nat × Bool :=
  let (a, d) := if 0 ≤ k then (i.value, i.den * tenPow k.toNat) else (i.value * tenPow (-k).toNat, i.den)
  let n := a / d
  let r := a % d
  (n, d < 2 * r || (2 * r == d && n % 2 == 1))

/-- The point of the grid of `10^k` in the interval that is nearest to the value. -/
def Interval.point? (i : Interval) (k : Int) : Option Nat :=
  let (n, upperNearer) := i.grid k
  match i.holds n k, i.holds (n + 1) k with
  | true, true => some (if upperNearer then n + 1 else n)
  | true, false => some n
  | false, true => some (n + 1)
  | false, false => none

/-- The least `p` with `num / den < 10^p`, found by counting up from an underestimate. -/
def decimalPoint (num den : Nat) : Int :=
  let guess : Int := ((bitLength num : Int) - bitLength den - 1) * 3 / 10 - 2
  let below (p : Int) : Bool :=
    if 0 ≤ p then num < den * tenPow p.toNat else num * tenPow (-p).toNat < den
  let rec search : Nat → Int → Int
    | 0, p => p
    | n + 1, p => if below p then p else search n (p + 1)
  search 64 guess

/-- The digits `n` and the exponent `k` of the shortest decimal `n · 10^k`. -/
def shortest (m : Nat) (e : Int) : Nat × Int :=
  let i := interval m e
  let point := decimalPoint i.value i.den
  let rec search : Nat → Nat → Nat × Int
    | 0, _ => (i.value, 0)
    | n + 1, count =>
      match i.point? (point - count) with
      | some digits => (digits, point - count)
      | none => search n (count + 1)
  search 20 1

/-- Removes the zeros at the end of a number's digits. -/
def dropZeros : List Char → List Char :=
  fun ds => (ds.reverse.dropWhile (· = '0')).reverse

/-- How numbers are written: positionally while the decimal point stands from three places
before the digits to sixteen places after their start, else with an exponent of at least two
digits; a positional number always shows a fraction. -/
structure NumberStyle where
  firstPoint : Int
  lastPoint : Int
  exponentDigits : Nat
  infinite : String
  nan : String

def usualStyle : NumberStyle := ⟨-3, 16, 2, "inf", "nan"⟩

/-- The digits with the decimal point after the first `point` of them. -/
def positional (digits : List Char) (point : Int) : List Char :=
  if point ≤ 0 then '0' :: '.' :: List.replicate (-point).toNat '0' ++ digits
  else
    let whole := digits.take point.toNat
    let padding := List.replicate (point.toNat - digits.length) '0'
    let fraction := digits.drop point.toNat
    whole ++ padding ++ '.' :: (if fraction.isEmpty then ['0'] else fraction)

/-- The digits with one before the decimal point, and the exponent. -/
def exponential (form : NumberStyle) (digits : List Char) (point : Int) : List Char :=
  let exponent := point - 1
  let ds := Nat.toDigits 10 exponent.natAbs
  let padded := List.replicate (form.exponentDigits - ds.length) '0' ++ ds
  let fraction := digits.drop 1
  digits.take 1 ++ (if fraction.isEmpty then [] else '.' :: fraction) ++
    ['e', if exponent < 0 then '-' else '+'] ++ padded

/-- The text of a number. -/
def text (form : NumberStyle) : Binary64 → String
  | .nan => form.nan
  | .infinite negative => (if negative then "-" else "") ++ form.infinite
  | .finite negative m e =>
    let body :=
      if m = 0 then ['0', '.', '0']
      else
        let (n, k) := shortest m e
        let all := Nat.toDigits 10 n
        let point := (all.length : Int) + k
        let digits := dropZeros all
        if form.firstPoint ≤ point && point ≤ form.lastPoint then positional digits point
        else exponential form digits point
    (if negative then "-" else "") ++ String.ofList body

end PatchForge.Binary64
