import Tombola.Command.Selection
/-!
# Shuffles

Rearrangements that can be told in advance, and the one that draws options one after another
by numbers that come from outside.

Main statements: `Named.perm`, `drawn_perm`, each of them only changes the order.
-/

namespace Tombola.Command.Shuffle

/-- The rearrangements with a name. -/
inductive Named where
  | keep
  | reverse
  /-- The first option goes to the end. -/
  | rotate
  | sort
  deriving DecidableEq, Repr

def rotate : List String → List String
  | [] => []
  | x :: xs => xs ++ [x]

def sort (options : List String) : List String :=
  options.mergeSort fun a b => decide (a ≤ b)

def Named.apply : Named → Shuffle
  | .keep => id
  | .reverse => List.reverse
  | .rotate => Shuffle.rotate
  | .sort => Shuffle.sort

/-- **A named shuffle only changes the order.** -/
theorem Named.perm (n : Named) (options : List String) : (n.apply options).Perm options := by
  cases n with
  | keep => exact List.Perm.refl _
  | reverse => exact options.reverse_perm
  | rotate =>
    cases options with
    | nil => exact List.Perm.refl _
    | cons x xs => exact List.perm_append_singleton x xs
  | sort => exact List.mergeSort_perm options _

/-! ## Drawing -/

/-- Draws one option after another: `choose n` tells which of the `n + 1` options that are
left comes next. -/
def drawnWithin (choose : Nat → Nat) : Nat → List String → List String
  | 0, options => options
  | n + 1, options =>
    let i := choose n % (n + 1)
    match options[i]? with
    | some x => x :: drawnWithin choose n (options.eraseIdx i)
    | none => options

/-- The options in the order in which they are drawn. -/
def drawn (choose : Nat → Nat) : Shuffle := fun options =>
  drawnWithin choose options.length options

theorem cons_eraseIdx_perm {options : List String} {i : Nat} {x : String}
    (h : options[i]? = some x) : (x :: options.eraseIdx i).Perm options := by
  induction options generalizing i with
  | nil => simp at h
  | cons y ys ih =>
    cases i with
    | zero =>
      obtain rfl : y = x := by simpa using h
      exact List.Perm.refl _
    | succ i => exact (List.Perm.swap y x _).trans ((ih (by simpa using h)).cons y)

theorem drawnWithin_perm (choose : Nat → Nat) (n : Nat) (options : List String) :
    (drawnWithin choose n options).Perm options := by
  induction n generalizing options with
  | zero => exact List.Perm.refl _
  | succ n ih =>
    simp only [drawnWithin]
    split
    · rename_i x h
      exact ((ih _).cons x).trans (cons_eraseIdx_perm h)
    · exact List.Perm.refl _

theorem drawn_perm (choose : Nat → Nat) (options : List String) :
    (drawn choose options).Perm options := drawnWithin_perm choose _ options

end Tombola.Command.Shuffle
