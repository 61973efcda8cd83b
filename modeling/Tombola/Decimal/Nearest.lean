import Tombola.Decimal.Digits
/-!
# The double nearest to a fraction

A double is `m · 2^q` with `m < 2^53` and `q ≥ -1074`.  The nearest double to a positive
fraction is found in whole numbers: choose the least `q` for which the quotient fits into 53
bits, round the quotient to the nearest whole number, a half to the even neighbour, and put
`m` and `q` together.  Adding `m` to the exponent field carries a rounded-up `2^53` into the
next exponent, and the first exponent that overflows is infinity.

Main statement: `roundDiv_mul_le`, the rounded quotient is within half a unit.
-/

namespace Tombola.Decimal

/-- `num / den` rounded to the nearest whole number, a half to the even one. -/
def roundDiv (num den : Nat) : Nat :=
  let d := num / den
  let r := num % den
  if 2 * r < den then d
  else if den < 2 * r then d + 1
  else if d % 2 = 0 then d else d + 1

def infinityBits : Nat := 0x7FF0000000000000

/-- The bits of the double nearest to `num / den`, for a positive `den`. -/
def nearestBits (num den : Nat) : Nat :=
  if num = 0 then 0
  else
    let guess : Int := (num.log2 : Int) - den.log2 - 53
    let scaled (q : Int) : Nat × Nat :=
      if 0 ≤ q then (num, den * twoTo q.toNat) else (num * twoTo (-q).toNat, den)
    let wide := let (a, b) := scaled guess; twoTo 53 * b ≤ a
    let q := max (-1074) (if wide then guess + 1 else guess)
    let (a, b) := scaled q
    min infinityBits ((q + 1074).toNat * twoTo 52 + roundDiv a b)

/-- The double nearest to `mantissa · 10^exponent`.  Far outside the range of doubles the
power of ten is not worked out. -/
def toFloat (mantissa : Nat) (exponent : Int) : Float :=
  let size : Int := (toString mantissa).length
  let bits :=
    if mantissa = 0 ∨ size + exponent < -330 then 0
    else if 310 < size + exponent then infinityBits
    else if 0 ≤ exponent then nearestBits (mantissa * tenTo exponent.toNat) 1
    else nearestBits mantissa (tenTo (-exponent).toNat)
  Float.ofBits bits.toUInt64

/-- **Within half a unit.**  Twice the distance of the rounded quotient is at most `den`. -/
theorem roundDiv_mul_le {num den : Nat} (h : 0 < den) :
    2 * num ≤ 2 * (roundDiv num den * den) + den ∧
      2 * (roundDiv num den * den) ≤ 2 * num + den := by
  have hdiv := Nat.div_add_mod num den
  have hlt := Nat.mod_lt num h
  have hs : (num / den + 1) * den = num / den * den + den := by rw [Nat.add_mul, Nat.one_mul]
  rw [Nat.mul_comm] at hdiv
  unfold roundDiv
  simp only
  split
  · omega
  · split
    · omega
    · split <;> omega

end Tombola.Decimal
