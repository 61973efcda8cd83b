import Tombola.Decimal.Digits
/-!
# The shortest decimal of a double

A finite double stands for all numbers that round to it: those between the midpoints to its
neighbours, the midpoints included when its last bit is zero.  Its shortest decimal is the
one with the fewest digits in that interval and, of those, the nearest to the double.  It is
found by trying 1, 2, … 17 digits and looking at the two multiples of the last place around
the double.

Above that stands how such numbers are written in messages and settings (`Decimal.text`).
-/

namespace Tombola.Decimal

/-! ## 1. A double and its interval -/

/-- A positive finite double with the numbers that round to it, all over one denominator. -/
structure Rounding where
  num : Nat
  low : Nat
  high : Nat
  den : Nat
  /-- Whether the midpoints round to the double. -/
  closed : Bool
  deriving Repr

/-- The interval of the double with the given bits (sign left off). -/
def Rounding.ofBits (bits : Nat) : Rounding :=
  let field : Nat := bits / twoTo 52
  let frac : Nat := bits % twoTo 52
  let m := if field = 0 then frac else twoTo 52 + frac
  let q : Int := (max 1 field : Nat) - 1077
  let unit := twoTo q.toNat
  let below := if frac = 0 ∧ 1 < field then 1 else 2
  ⟨4 * m * unit, (4 * m - below) * unit, (4 * m + 2) * unit, twoTo (-q).toNat, m % 2 == 0⟩

/-- Whether `c · 10^e` rounds to the double. -/
def Rounding.admits (r : Rounding) (c : Nat) (e : Int) : Bool :=
  let cn := c * tenTo e.toNat * r.den
  let cd := tenTo (-e).toNat
  if r.closed then r.low * cd ≤ cn && cn ≤ r.high * cd
  else r.low * cd < cn && cn < r.high * cd

/-! ## 2. The search -/

/-- The exponent `k` with `10^(k-1) ≤ num/den < 10^k`. -/
def magnitude (num den : Nat) : Int :=
  if den ≤ num then (digits (num / den)).length
  else 1 - (((List.range 400).find? fun j => den ≤ num * tenTo j).getD 400 : Nat)

/-- A decimal `coefficient · 10^exponent`. -/
structure Scaled where
  coefficient : Nat
  exponent : Int
  deriving Repr

/-- The decimal with `n` digits that rounds to the double, if there is one: of the two
multiples of the last place around the double the nearer, of two equally near the even. -/
def Rounding.withDigits (r : Rounding) (k : Int) (n : Nat) : Option Scaled :=
  let e := k - n
  let down := r.num * tenTo (-e).toNat / (r.den * tenTo e.toNat)
  let twice := 2 * r.num * tenTo (-e).toNat
  let middle := (2 * down + 1) * tenTo e.toNat * r.den
  let downFirst := twice < middle || (twice == middle && down % 2 == 0)
  let order := if downFirst then [down, down + 1] else [down + 1, down]
  (order.find? fun c => 0 < c && r.admits c e).map fun c => ⟨c, e⟩

/-- The shortest decimal of a positive finite double. -/
def shortest (bits : Nat) : Scaled :=
  let r := Rounding.ofBits bits
  let k := magnitude r.num r.den
  ((List.range 17).findSome? fun i => r.withDigits k (i + 1)).getD ⟨0, 0⟩

/-! ## 3. The written form -/

/-- Digits of the shortest decimal without zeros at the end, and the place of the point
behind the first of them. -/
def significant (d : Scaled) : List Char × Int :=
  let ds := digits d.coefficient
  ((ds.reverse.dropWhile (· == '0')).reverse, ds.length + d.exponent)

/-- The least and the greatest exponent that are written without a power of ten. -/
def positional : Int × Int := (-4, 15)

/-- Digits with the point at `place`.  The exponent has a sign and at least two digits. -/
def layout (ds : List Char) (place : Int) : String :=
  let e := place - 1
  if positional.1 ≤ e ∧ e ≤ positional.2 then
    if place ≤ 0 then
      "0." ++ String.ofList (List.replicate (-place).toNat '0' ++ ds)
    else
      let n := place.toNat
      let whole := ds.take n ++ List.replicate (n - ds.length) '0'
      let rest := ds.drop n
      String.ofList whole ++ "." ++ (if rest = [] then "0" else String.ofList rest)
  else
    let power := digits e.natAbs
    String.ofList (ds.take 1)
      ++ (if ds.length ≤ 1 then "" else "." ++ String.ofList (ds.drop 1))
      ++ (if e < 0 then "e-" else "e+")
      ++ String.ofList (if power.length < 2 then '0' :: power else power)

/-- The text of a double: the shortest decimal, `inf` or `nan`. -/
def text (x : Float) : String :=
  let bits := x.toBits.toNat
  let sign := if twoTo 63 ≤ bits then "-" else ""
  let size := bits % twoTo 63
  if 0x7FF0000000000000 < size then "nan"
  else if size = 0x7FF0000000000000 then sign ++ "inf"
  else if size = 0 then sign ++ "0.0"
  else
    let (ds, place) := significant (shortest size)
    sign ++ layout ds place

end Tombola.Decimal
