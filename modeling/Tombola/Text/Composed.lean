import Tombola.Text.Composition
/-!
# The composed form of a text

The same text can be written with accented letters or with letters and marks.  In its
composed form every character is first taken apart as far as it goes, marks that follow each
other are put in the order of their classes, and then each mark is joined with the letter
before it where there is a character for both, unless a mark of the same or of a higher
class stands between.

Characters are given by their numbers.

Main statement: `ordered_perm`, putting marks in order loses none and adds none.
-/

namespace Tombola.Text

/-! ## 1. Korean syllables -/

/-- The first syllable; a syllable is a leading consonant, a vowel and possibly a trailing
consonant, and all of them have a character, in this order. -/
def firstSyllable : Nat := 0xAC00

/-- How many syllables there are. -/
def syllableCount : Nat := 11172

/-- The letters of a syllable that is the `i`-th. -/
def lettersOf (i : Nat) : List Nat :=
  let pair := [0x1100 + i / 588, 0x1161 + i % 588 / 28]
  if i % 28 = 0 then pair else pair ++ [0x11A7 + i % 28]

/-- The syllable of a leading consonant and a vowel, or of a syllable without a trailing
consonant and one. -/
def syllable? (a b : Nat) : Option Nat :=
  if 0x1100 ≤ a && a < 0x1113 && 0x1161 ≤ b && b < 0x1176 then
    some (firstSyllable + ((a - 0x1100) * 21 + (b - 0x1161)) * 28)
  else if firstSyllable ≤ a && a < firstSyllable + syllableCount
      && (a - firstSyllable) % 28 == 0 && 0x11A7 < b && b < 0x11C3 then
    some (a + (b - 0x11A7))
  else none

/-! ## 2. Taking apart -/

/-- The class of a mark; of anything else 0. -/
def markClass (n : Nat) : Nat :=
  match markClasses.find? fun r => r.1 ≤ n && n ≤ r.2.1 with
  | some r => r.2.2
  | none => 0

/-- The character at a place of a table that begins with the character `first`. -/
def tableAt? (first : Nat) (table : String) (n : Nat) : Option Nat :=
  if first ≤ n then (table.toList[n - first]?).map Char.toNat else none

/-- What a character is made of. -/
def partsOf (n : Nat) : List Nat :=
  if n < 0xC0 then [n]
  else if firstSyllable ≤ n && n < firstSyllable + syllableCount then lettersOf (n - firstSyllable)
  else match composites.find? (·.1 == n) with
    | some r => [r.2.1, r.2.2]
    | none => match parted.find? (·.1 == n) with
      | some r => [r.2.1, r.2.2]
      | none => match doubles.find? (·.1 == n) with
        | some r => [r.2]
        | none =>
          let other := (tableAt? 0xF900 ideographsF900 n).or (tableAt? 0x2F800 ideographs2F800 n)
          [other.getD n]

/-- Takes a character apart in at most `depth` steps.  Four are enough for every one. -/
def apart : Nat → Nat → List Nat
  | 0, n => [n]
  | depth + 1, n =>
    let parts := partsOf n
    if parts = [n] then parts else parts.flatMap (apart depth)

/-! ## 3. The order of marks -/

/-- Puts a character behind others, the last of them first; a mark goes in front of the
marks of higher classes. -/
def place (n : Nat) : List Nat → List Nat
  | [] => [n]
  | m :: ms => if markClass n ≠ 0 ∧ markClass n < markClass m then m :: place n ms else n :: m :: ms

/-- Puts marks in the order of their classes. -/
def ordered (ns : List Nat) : List Nat := (ns.foldl (fun out n => place n out) []).reverse

theorem place_perm (n : Nat) (ms : List Nat) : (place n ms).Perm (n :: ms) := by
  induction ms with
  | nil => exact .refl _
  | cons m ms ih =>
    unfold place
    split
    · exact (ih.cons m).trans (.swap n m ms)
    · exact .refl _

theorem foldl_place_perm (ns out : List Nat) :
    (ns.foldl (fun out n => place n out) out).Perm (ns ++ out) := by
  induction ns generalizing out with
  | nil => exact .refl _
  | cons n ns ih => exact (ih _).trans (((place_perm n out).append_left ns).trans List.perm_middle)

/-- **Putting marks in order loses none and adds none.** -/
theorem ordered_perm (ns : List Nat) : (ordered ns).Perm ns := by
  have h := foldl_place_perm ns []
  rw [List.append_nil] at h
  exact (List.reverse_perm _).trans h

/-! ## 4. Putting together -/

/-- The character that two others make. -/
def joined? (a b : Nat) : Option Nat :=
  match syllable? a b with
  | some n => some n
  | none => (composites.find? fun r => r.2.1 == a && r.2.2 == b).map (·.1)

/-- Joins the rest of a text.  `letter` is the letter that marks are joined with, and `held`
are the marks behind it that could not be, the last one first. -/
def joinFrom (letter : Option Nat) (held : List Nat) : List Nat → List Nat
  | [] => letter.toList ++ held.reverse
  | n :: ns =>
    let k := markClass n
    match letter with
    | none => if k = 0 then joinFrom (some n) [] ns else n :: joinFrom none [] ns
    | some l =>
      let free := match held with
        | [] => true
        | m :: _ => markClass m < k
      match (if free then joined? l n else none) with
      | some c => joinFrom (some c) held ns
      | none =>
        if k = 0 then l :: held.reverse ++ joinFrom (some n) [] ns
        else joinFrom (some l) (n :: held) ns

def composed (ns : List Nat) : List Nat := joinFrom none [] (ordered (ns.flatMap (apart 4)))

end Tombola.Text
