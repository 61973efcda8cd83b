import Mathlib.Data.Nat.Digits.Defs
import Tombola.Command.Perform
/-!
# What a command refuses

A command that is refused is refused with a text, and some of the texts show numbers: how many
options there are, and how many winners were asked for.  How many options there are matters
only when they are too few.  How many winners are asked for is up to the user, but a count has
no more digits than a number may have that is written out.  So no number is shown that is
longer than a count may be.

Main statements: `Count.length_le_of_ofWord?`, a count and all that is less can be written in
as many digits as a count may have; `isRefusal_of_draw`, so can what a draw is refused with.
-/

namespace Tombola

/-- The numbers that the texts of a fault show. -/
def UsageFault.numbers : UsageFault → List Nat
  | .tooFewToDraw found => [found]
  | .tooManyWinners wanted found => [wanted, found]
  | .tooFewToSave _ found => [found]
  | _ => []

/-- Whether an error refuses words as they are, with numbers that are no longer than a count
may be. -/
def DrawError.IsRefusal : DrawError → Prop
  | .missingOperand _ => True
  | .usage fault => ∀ n ∈ fault.numbers, (toString n).length ≤ Command.Count.maxDigits
  | _ => False

namespace Command

open Groups

/-! ## 1. Numbers that are not too long -/

theorem length_le_of_lt_two {n : Nat} (h : n < 2) : (toString n).length ≤ Count.maxDigits :=
  Nat.le_trans (Nat.repr_length n 1 Nat.one_pos (by omega)) (by decide)

/-- **A count is no longer than a count may be**, and what is less is not longer. -/
theorem Count.length_le_of_ofWord? {word : String} {n m : Nat} (h : ofWord? word = some n)
    (hm : m ≤ n) : (toString m).length ≤ maxDigits := by
  obtain ⟨hn, ds, hds, hlen, rfl⟩ := ofWord?_eq_some h
  have hlt : m < 10 ^ ds.length := Nat.lt_of_le_of_lt hm (Decimal.value_lt hds)
  have hpos : 0 < ds.length := by
    refine List.length_pos_iff.mpr ?_
    rintro rfl
    exact absurd hn (by decide)
  exact Nat.le_trans (Nat.repr_length m ds.length hpos hlt) hlen

/-- No mode asks for more winners than a count may tell. -/
theorem Mode.length_le_of_ofWords {words rest : List String} {n m : Nat}
    (h : ofWords words = .ok (.winners n, rest)) (hm : m ≤ n) :
    (toString m).length ≤ Count.maxDigits := by
  unfold ofWords at h
  split at h
  · simp at h
  · simp at h
  · split at h
    · rename_i hc
      obtain ⟨rfl, rfl⟩ : _ ∧ _ := by simpa using h
      exact Count.length_le_of_ofWord? hc hm
    · simp at h
  · obtain ⟨rfl, rfl⟩ : 1 = n ∧ _ := by simpa using h
    exact length_le_of_lt_two (by omega)

/-! ## 2. Refusals -/

theorem isRefusal_of_ofWords {words : List String} {e : DrawError}
    (h : Request.ofWords words = .error e) : e.IsRefusal := by
  unfold Request.ofWords at h
  split at h
  · cases h
  · split at h
    · cases h
    · split at h
      · cases h
      · split at h
        · cases h
        · obtain rfl := Except.error.inj h
          trivial
        · cases h

theorem isRefusal_of_checkName {group : String} {u : UsageFault}
    (h : checkName group = .error u) : (DrawError.usage u).IsRefusal := by
  have hnone : u.numbers = [] := by
    unfold checkName at h
    split at h
    · obtain rfl := Except.error.inj h
      rfl
    · split at h
      · split at h
        · obtain rfl := Except.error.inj h
          rfl
        · cases h
      · cases h
  intro n hn
  rw [hnone] at hn
  cases hn

theorem isRefusal_of_mode {words : List String} {u : UsageFault}
    (h : Mode.ofWords words = .error u) : (DrawError.usage u).IsRefusal := by
  have hbad : u = .badCount := by
    unfold Mode.ofWords at h
    split at h
    · cases h
    · exact (Except.error.inj h).symm
    · split at h
      · cases h
      · exact (Except.error.inj h).symm
    · cases h
  rw [hbad]
  intro n hn
  cases hn

/-- **What a draw is refused with can be written out**, whatever the count was.  The refusal shows
the count in decimal, which fails beyond a greatest number of digits; a count that was read has no
more of them. -/
theorem isRefusal_of_draw {words rest options : List String} {mode : Mode} {shuffle : Shuffle}
    {e : DrawError} (hm : Mode.ofWords words = .ok (mode, rest))
    (h : draw shuffle mode options = .error e) : e.IsRefusal := by
  unfold draw at h
  split at h
  · rename_i u hu
    obtain rfl := Except.error.inj h
    unfold Mode.check at hu
    split at hu
    · rename_i hlen
      obtain rfl := Except.error.inj hu
      intro n hn
      rw [List.mem_singleton.mp hn]
      exact length_le_of_lt_two hlen
    · cases mode with
      | all => cases hu
      | winners count =>
        simp only at hu
        split at hu
        · rename_i hlt
          obtain rfl := Except.error.inj hu
          -- The options are fewer than the winners, so their number is not longer.
          intro n hn
          have hle : n ≤ count := by
            simp only [UsageFault.numbers, List.mem_cons, List.not_mem_nil, or_false] at hn
            omega
          exact Mode.length_le_of_ofWords hm hle
        · cases hu
  · cases h

end Command

end Tombola
