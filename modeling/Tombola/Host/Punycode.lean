import Tombola.Text.CodePoint
/-!
# Labels in ASCII

A label of a host name that is not in ASCII is sent in ASCII: first come its ASCII
characters and a hyphen, then numbers that tell where which other characters go.  The
numbers are written in digits `a` to `z` and `0` to `9` whose weights depend on the numbers
before, so that most of them take one or two digits.

Main statements: `digitValue?_digitChar`, a digit reads back as its value;
`threshold_bounds`, every number comes to an end.
-/

namespace Tombola.Host.Punycode

/-! ## 1. Digits and weights -/

/-- The letter or digit of ASCII for a value below 36. -/
def digitChar (n : Nat) : Char :=
  if n < 26 then Char.ofNat (0x61 + n) else Char.ofNat (0x30 + (n - 26))

/-- The value of a letter, large or small, or of a digit. -/
def digitValue? (c : Char) : Option Nat :=
  if 'a' ≤ c ∧ c ≤ 'z' then some (c.toNat - 0x61)
  else if 'A' ≤ c ∧ c ≤ 'Z' then some (c.toNat - 0x41)
  else if '0' ≤ c ∧ c ≤ '9' then some (c.toNat - 0x30 + 26)
  else none

theorem digitValue?_digitChar : ∀ n < 36, digitValue? (digitChar n) = some n := by decide

/-- The least value that ends a number, at the `j`-th of its digits. -/
def threshold (bias j : Nat) : Nat :=
  let k := 36 * (j + 1)
  if k ≤ bias then 1 else if bias + 26 ≤ k then 26 else k - bias

theorem threshold_bounds (bias j : Nat) : 1 ≤ threshold bias j ∧ threshold bias j ≤ 26 := by
  unfold threshold
  simp only
  split
  · omega
  · split <;> omega

/-- Divides a distance until it is small, and counts what the divisions add to the bias. -/
def settle (delta k : Nat) : Nat × Nat :=
  if 455 < delta then settle (delta / 35) (k + 36) else (delta, k)
termination_by delta

/-- The bias after a number; `count` is how many characters there are by now. -/
def adapt (delta : Nat) (first : Bool) (count : Nat) : Nat :=
  let delta := if first then delta / 700 else delta / 2
  let delta := delta + delta / count
  let (delta, k) := settle delta 0
  k + 36 * delta / (delta + 38)

/-! ## 2. Writing -/

/-- The digits of a number from the `j`-th on. -/
def numberFrom (bias : Nat) (n j : Nat) : List Char :=
  let t := threshold bias j
  if h : n < t then [digitChar n]
  else digitChar (t + (n - t) % (36 - t)) :: numberFrom bias ((n - t) / (36 - t)) (j + 1)
termination_by n
decreasing_by
  have := threshold_bounds bias j
  have h1 : (n - threshold bias j) / (36 - threshold bias j) ≤ n - threshold bias j :=
    Nat.div_le_self _ _
  omega

/-- What has been written, and where the writer stands. -/
structure Writer where
  delta : Nat
  bias : Nat
  /-- How many characters there are by now. -/
  count : Nat
  /-- Whether no number has been written yet. -/
  first : Bool
  out : List Char

/-- Passes one character of the label while the character `n` is being inserted. -/
def Writer.pass (n : Nat) (w : Writer) (c : Nat) : Writer :=
  if c < n then { w with delta := w.delta + 1 }
  else if c = n then
    ⟨0, adapt w.delta w.first (w.count + 1), w.count + 1, false,
      w.out ++ numberFrom w.bias w.delta 0⟩
  else w

/-- Inserts all occurrences of the character `n`; those below `last` are there already. -/
def Writer.insert (label : List Nat) (w : Writer) (last n : Nat) : Writer :=
  let w := { w with delta := w.delta + (n - last) * (w.count + 1) }
  let w := label.foldl (Writer.pass n) w
  { w with delta := w.delta + 1 }

/-- The different characters beyond ASCII of a label, in ascending order. -/
def foreign (label : List Nat) : List Nat :=
  ((label.filter (128 ≤ ·)).mergeSort).eraseDups

def encode (label : List Nat) : List Char :=
  let basic := (label.filter (· < 128)).map Char.ofNat
  let start : Writer := ⟨0, 72, basic.length, true, []⟩
  let done := (foreign label).foldl
    (fun p n => (p.1.insert label p.2 n, n + 1)) (start, 128)
  (if basic = [] then [] else basic ++ ['-']) ++ done.1.out

/-! ## 3. Reading -/

/-- Reads the digits of one number from the `j`-th on; gives the number and the rest. -/
def readNumber? (bias j weight value : Nat) : List Char → Option (Nat × List Char)
  | [] => none
  | c :: cs =>
    match digitValue? c with
    | none => none
    | some d =>
      let t := threshold bias j
      let value := value + d * weight
      if d < t then some (value, cs) else readNumber? bias (j + 1) (weight * (36 - t)) value cs

theorem readNumber?_length {bias j weight value : Nat} {cs rest : List Char} {n : Nat}
    (h : readNumber? bias j weight value cs = some (n, rest)) : rest.length < cs.length := by
  induction cs generalizing j weight value with
  | nil => simp [readNumber?] at h
  | cons c cs ih =>
    unfold readNumber? at h
    split at h
    · cases h
    · simp only at h
      split at h
      · cases h
        simp
      · exact Nat.lt_succ_of_lt (ih h)

/-- Inserts the characters that the numbers tell.  A number says how far it is from the
character `n` at `place` to the next one, if one goes through all places for each character
before going to the next character. -/
def readFrom (cs : List Char) (out : List Nat) (n place bias : Nat) (first : Bool) :
    Option (List Nat) :=
  if cs = [] then some out
  else match h : readNumber? bias 0 1 0 cs with
    | none => none
    | some (delta, rest) =>
      let count := out.length + 1
      let place := place + delta
      let n := n + place / count
      let place := place % count
      if 0x10FFFF < n then none
      else
        have := readNumber?_length h
        readFrom rest (out.take place ++ n :: out.drop place) n (place + 1)
          (adapt delta first count) false
termination_by cs.length

/-- The label with this ASCII form. -/
def decode? (cs : List Char) : Option (List Nat) :=
  let (basic, numbers) :=
    if cs.contains '-' then
      let back := cs.reverse
      ((back.dropWhile (· ≠ '-')).tail.reverse, (back.takeWhile (· ≠ '-')).reverse)
    else ([], cs)
  readFrom numbers (basic.map Char.toNat) 128 0 72 true

end Tombola.Host.Punycode
