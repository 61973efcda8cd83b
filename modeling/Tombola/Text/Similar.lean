/-!
# Similar texts

Two texts are similar when the characters that they share make up enough of both.  What they
share is found by their longest common part, the leftmost of several, and then in the same
way by what lies before and behind it on either side.

Main statement: `mem_similar`, what is similar is a candidate that shares enough.
-/

namespace Tombola.Text

/-! ## 1. The longest common part -/

/-- How many characters two texts begin with in common. -/
def commonStart : List Char → List Char → Nat
  | a :: as, b :: bs => if a = b then commonStart as bs + 1 else 0
  | _, _ => 0

/-- A part that two texts have in common: where it begins in either, and its length. -/
structure Part where
  left : Nat
  right : Nat
  size : Nat
  deriving DecidableEq, Repr

/-- Every place where a common part could begin, from left to right. -/
def starts (as bs : List Char) : List (Nat × Nat) :=
  (List.range as.length).flatMap fun i => (List.range bs.length).map fun j => (i, j)

/-- The longest common part, the leftmost of several. -/
def longest (as bs : List Char) : Part :=
  (starts as bs).foldl (fun best p =>
    let size := commonStart (as.drop p.1) (bs.drop p.2)
    if best.size < size then ⟨p.1, p.2, size⟩ else best) ⟨0, 0, 0⟩

/-! ## 2. What two texts share -/

/-- How many characters two texts share, looking no deeper than `fuel` parts. -/
def commonWithin : Nat → List Char → List Char → Nat
  | 0, _, _ => 0
  | fuel + 1, as, bs =>
    let p := longest as bs
    if p.size = 0 then 0
    else commonWithin fuel (as.take p.left) (bs.take p.right) + p.size
      + commonWithin fuel (as.drop (p.left + p.size)) (bs.drop (p.right + p.size))

/-- How many characters two texts share.  Every part takes at least one character away, so
there are no more parts than characters. -/
def common (as bs : List Char) : Nat := commonWithin as.length as bs

/-! ## 3. Similarity -/

/-- Whether what two texts share, counted in both, is at least six tenths of both. -/
def isSimilar (a b : String) : Bool :=
  3 * (a.length + b.length) ≤ 10 * common a.toList b.toList

/-- The candidates similar to a text, sorted. -/
def similar (candidates : List String) (s : String) : List String :=
  (candidates.filter (isSimilar · s)).mergeSort fun a b => decide (a ≤ b)

/-- What is similar is a candidate that shares enough. -/
theorem mem_similar {candidates : List String} {s c : String} :
    c ∈ similar candidates s ↔ c ∈ candidates ∧ isSimilar c s = true := by
  simp [similar]

end Tombola.Text
