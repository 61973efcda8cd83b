import Tombola.Decimal.Nearest
import Tombola.Decimal.Shortest
/-!
# Decimals of a given precision

A double is written with a given number of digits: so many behind the point, or so many in
all, with a power of ten where that is shorter.  The digits are those of the nearest such
decimal to the double itself, of two equally near the one with the even last digit.

Main statement: `length_fixedDigits`, as many digits stand behind the point as were asked for.
-/

namespace Tombola.Decimal

/-! ## 1. Digits -/

/-- Digits with zeros in front, so that there are at least `n` of them. -/
def padded (n : Nat) (ds : List Char) : List Char := List.replicate (n - ds.length) '0' ++ ds

/-- The digits before and behind the point of a fraction with `places` digits behind it. -/
def fixedDigits (num den places : Nat) : List Char × List Char :=
  let ds := padded (places + 1) (digits (roundDiv (num * tenTo places) den))
  (ds.take (ds.length - places), ds.drop (ds.length - places))

/-- As many digits stand behind the point as were asked for. -/
theorem length_fixedDigits (num den places : Nat) :
    (fixedDigits num den places).2.length = places := by
  simp only [fixedDigits, padded, List.length_drop, List.length_append, List.length_replicate]
  omega

/-- The first `places + 1` digits of a fraction and the exponent of the first of them. -/
def leadingDigits (num den places : Nat) : List Char × Int :=
  if num = 0 then (List.replicate (places + 1) '0', 0)
  else
    let k := magnitude num den
    let e : Int := places + 1 - k
    let n := roundDiv (num * tenTo e.toNat) (den * tenTo (-e).toNat)
    if n = tenTo (places + 1) then (digits (tenTo places), k) else (digits n, k - 1)

/-! ## 2. Written forms -/

/-- The ways to write a double with a given precision. -/
inductive Style where
  | point
  /-- One digit before the point, and a power of ten. -/
  | power
  /-- Whichever is shorter, without zeros at the end. -/
  | general
  deriving DecidableEq, Repr

/-- The digits before and behind a point, which is left out where nothing follows it unless
it is always wanted. -/
def pointed (always : Bool) (whole frac : List Char) : List Char :=
  if frac = [] ∧ always = false then whole else whole ++ '.' :: frac

/-- An exponent, with its sign and at least two digits. -/
def powerOf (e : Int) : List Char :=
  'e' :: (if e < 0 then '-' else '+') :: padded 2 (digits e.natAbs)

/-- Digits of which the first has the exponent `e`, without a power of ten. -/
def spread (always : Bool) (ds : List Char) (e : Int) : List Char :=
  if e < 0 then pointed always ['0'] (List.replicate (-e - 1).toNat '0' ++ ds)
  else
    let n := e.toNat + 1
    pointed always (ds.take n ++ List.replicate (n - ds.length) '0') (ds.drop n)

/-- A fraction in the general style: without a power of ten from `10^-4` up to as many digits
as there are. -/
def generalForm (always : Bool) (num den precision : Nat) : List Char :=
  let p := max 1 precision
  let (all, e) := leadingDigits num den (p - 1)
  let short := (all.reverse.dropWhile (· == '0')).reverse
  let ds := if always then all else if short = [] then ['0'] else short
  if e < -4 ∨ (p : Int) ≤ e then pointed always (ds.take 1) (ds.drop 1) ++ powerOf e
  else spread always ds e

/-- A double with a given precision.  With `always`, there is a point even if nothing follows
it, and zeros at the end are kept. -/
def Style.write (style : Style) (always : Bool) (precision : Nat) (x : Float) : List Char :=
  let bits := x.toBits.toNat
  let sign := if twoTo 63 ≤ bits then ['-'] else []
  let size := bits % twoTo 63
  if infinityBits < size then "nan".toList
  else if size = infinityBits then sign ++ "inf".toList
  else
    let r := Rounding.ofBits size
    sign ++ match style with
      | .point =>
        let (whole, frac) := fixedDigits r.num r.den precision
        pointed always whole frac
      | .power =>
        let (ds, e) := leadingDigits r.num r.den precision
        pointed always (ds.take 1) (ds.drop 1) ++ powerOf e
      | .general => generalForm always r.num r.den precision

/-- The whole part of a finite double. -/
def truncated? (x : Float) : Option Int :=
  let bits := x.toBits.toNat
  let size := bits % twoTo 63
  if infinityBits ≤ size then none
  else
    let r := Rounding.ofBits size
    let n : Int := (r.num / r.den : Nat)
    some (if twoTo 63 ≤ bits then -n else n)

end Tombola.Decimal
