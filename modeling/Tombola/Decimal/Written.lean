import Tombola.Decimal.Nearest
/-!
# Written numbers

A number with a fraction is written as an optional sign and either digits with at most one
point and an optional exponent, or one of the names `inf`, `infinity` and `nan` in any letter
case.
-/

namespace Tombola.Decimal

/-- An optional sign, true for a minus, and the rest. -/
def signed : List Char → Bool × List Char
  | '-' :: cs => (true, cs)
  | '+' :: cs => (false, cs)
  | cs => (false, cs)

/-- The exponent in a text: nothing, or a letter, an optional sign and digits. -/
def exponent? : List Char → Option Int
  | [] => some 0
  | c :: cs =>
    if c = 'e' ∨ c = 'E' then
      let (negative, ds) := signed cs
      if ds ≠ [] ∧ ds.all isDigit then
        let n : Int := value ds
        some (if negative then -n else n)
      else none
    else none

/-- The number without a sign that a text stands for. -/
def unsigned? (cs : List Char) : Option Float :=
  let name := cs.map Char.toLower
  if name = "inf".toList ∨ name = "infinity".toList then some (1.0 / 0.0)
  else if name = "nan".toList then some (0.0 / 0.0)
  else
    let whole := cs.takeWhile isDigit
    let rest := cs.dropWhile isDigit
    let (frac, rest) := match rest with
      | '.' :: r => (r.takeWhile isDigit, r.dropWhile isDigit)
      | r => ([], r)
    if whole = [] ∧ frac = [] then none
    else (exponent? rest).map fun e => toFloat (value (whole ++ frac)) (e - frac.length)

/-- The number that a text stands for, as it is written. -/
def written? (cs : List Char) : Option Float :=
  let (negative, rest) := signed cs
  (unsigned? rest).map fun x => if negative then -x else x

end Tombola.Decimal
