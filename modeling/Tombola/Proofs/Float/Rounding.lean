import Mathlib.Algebra.Group.Nat.Defs
/-!
# Sums that are rounded

Every finite floating-point number is a whole number of *units*, and 53 binary digits of it are
kept.  So numbers with more digits lie on a grid, and the grid gets coarser the greater they are.
A sum is rounded to the grid at its place, to the nearest point, and if two are as near to the one
that is even.

What is added to a number on its grid is seen if it is more than half the way to the next point, or
just half of it where the number itself is odd; otherwise the sum is rounded back to the number.
Downwards the next point is half as far where the number is the first of its grid, and so the grid
that counts is the one of the number before it.

Main statements:

* `onGrid_rounded`: what is rounded lies on a grid;
* `rounded_add_lt_iff`: what is seen of a sum;
* `rounded_sub_lt_iff`: what is seen of a difference.
-/

namespace Tombola.Binary

/-! ## 1. Rounding -/

/-- A number divided by a power of two, rounded to the nearest whole number; of two that are as near
the even one. -/
def nearest (u n : Nat) : Nat :=
  if 2 * (u % 2 ^ n) < 2 ^ n then u / 2 ^ n
  else if 2 * (u % 2 ^ n) = 2 ^ n then u / 2 ^ n + u / 2 ^ n % 2
  else u / 2 ^ n + 1

/-- How many binary digits of a number are dropped, so that 53 are kept. -/
def grid (u : Nat) : Nat := u.log2 - 52

/-- A number rounded to its grid. -/
def rounded (u : Nat) : Nat := nearest u (grid u) * 2 ^ grid u

/-- Whether a number lies on its grid. -/
def OnGrid (u : Nat) : Prop := 2 ^ grid u ∣ u

theorem le_nearest (u n : Nat) : u / 2 ^ n ≤ nearest u n := by
  unfold nearest
  split
  · exact Nat.le_refl _
  · split
    · exact Nat.le_add_right _ _
    · exact Nat.le_succ _

theorem nearest_le (u n : Nat) : nearest u n ≤ u / 2 ^ n + 1 := by
  unfold nearest
  split
  · exact Nat.le_succ _
  · split
    · omega
    · exact Nat.le_refl _

/-- **Whether a number is rounded up,** by what is left of it. -/
theorem lt_nearest_iff {q d n : Nat} (hd : d < 2 ^ n) :
    q < nearest (2 ^ n * q + d) n ↔ 2 ^ n < 2 * d ∨ (2 ^ n = 2 * d ∧ q % 2 = 1) := by
  have hdiv : (2 ^ n * q + d) / 2 ^ n = q := by
    rw [Nat.mul_add_div (Nat.two_pow_pos n), Nat.div_eq_of_lt hd, Nat.add_zero]
  have hmod : (2 ^ n * q + d) % 2 ^ n = d := by
    rw [Nat.mul_add_mod, Nat.mod_eq_of_lt hd]
  unfold nearest
  rw [hdiv, hmod]
  split
  · omega
  · split <;> omega

theorem grid_le_of_le {u v : Nat} (h : u ≤ v) : grid u ≤ grid v := by
  have hlog : u.log2 ≤ v.log2 := by
    by_cases hu : u = 0
    · rw [hu]
      exact Nat.zero_le _
    · exact (Nat.le_log2 (by omega)).mpr (Nat.le_trans (Nat.log2_self_le hu) h)
  exact Nat.sub_le_sub_right hlog 52

theorem lt_of_grid (u : Nat) : u < 2 ^ (grid u + 53) := by
  have hlog : u < 2 ^ (u.log2 + 1) := Nat.lt_log2_self
  exact Nat.lt_of_lt_of_le hlog (Nat.pow_le_pow_right (by decide) (by unfold grid; omega))

/-- Where digits are dropped, a number is no smaller than the beginning of its grid. -/
theorem le_of_grid {u : Nat} (h : 0 < grid u) : 2 ^ (grid u + 52) ≤ u := by
  have hlog : grid u + 52 = u.log2 := by
    unfold grid at h ⊢
    omega
  have hu : u ≠ 0 := by
    rintro rfl
    exact absurd h (by decide)
  rw [hlog]
  exact Nat.log2_self_le hu

/-- The grid of a number is known by its beginning and its end. -/
theorem grid_eq {u n : Nat} (hlow : 2 ^ (n + 52) ≤ u) (hhigh : u < 2 ^ (n + 53)) :
    grid u = n := by
  have hu : u ≠ 0 := by
    have := Nat.two_pow_pos (n + 52)
    omega
  have hlog : u.log2 = n + 52 := (Nat.log2_eq_iff hu).mpr ⟨hlow, hhigh⟩
  unfold grid
  omega

theorem rounded_of_onGrid {u : Nat} (h : OnGrid u) : rounded u = u := by
  unfold rounded nearest
  rw [Nat.mod_eq_zero_of_dvd h, if_pos (Nat.two_pow_pos _), Nat.div_mul_cancel h]

/-- **No point of the grid is passed** when a number is rounded, neither downwards nor upwards. -/
theorem le_rounded {u v : Nat} (h : v ≤ u) (hv : 2 ^ grid u ∣ v) : v ≤ rounded u := by
  calc v = v / 2 ^ grid u * 2 ^ grid u := (Nat.div_mul_cancel hv).symm
    _ ≤ u / 2 ^ grid u * 2 ^ grid u := Nat.mul_le_mul_right _ (Nat.div_le_div_right h)
    _ ≤ rounded u := Nat.mul_le_mul_right _ (le_nearest u _)

theorem rounded_le {u v : Nat} (h : u ≤ v) (hv : 2 ^ grid u ∣ v) : rounded u ≤ v := by
  rcases Nat.eq_or_lt_of_le h with rfl | hlt
  · exact Nat.le_of_eq (rounded_of_onGrid hv)
  · have hdiv : u / 2 ^ grid u < v / 2 ^ grid u := by
      rw [Nat.div_lt_iff_lt_mul (Nat.two_pow_pos _), Nat.div_mul_cancel hv]
      exact hlt
    calc rounded u ≤ (u / 2 ^ grid u + 1) * 2 ^ grid u := Nat.mul_le_mul_right _ (nearest_le u _)
      _ ≤ v / 2 ^ grid u * 2 ^ grid u := Nat.mul_le_mul_right _ hdiv
      _ = v := Nat.div_mul_cancel hv

/-! ## 2. Places -/

theorem grid_mul_two_pow {m : Nat} (hm : m ≠ 0) (n : Nat) :
    grid (m * 2 ^ n) = m.log2 + n - 52 := by
  have hlog : (m * 2 ^ n).log2 = m.log2 + n := by
    refine (Nat.log2_eq_iff (Nat.mul_ne_zero hm (Nat.ne_of_gt (Nat.two_pow_pos n)))).mpr ⟨?_, ?_⟩
    · rw [Nat.pow_add]
      exact Nat.mul_le_mul_right _ (Nat.log2_self_le hm)
    · rw [Nat.add_right_comm, Nat.pow_add]
      exact Nat.mul_lt_mul_of_pos_right Nat.lt_log2_self (Nat.two_pow_pos n)
  rw [grid, hlog]

theorem nearest_scale (m k n : Nat) : nearest (m * 2 ^ n) (k + n) = nearest m k := by
  have hpos : 0 < 2 ^ n := Nat.two_pow_pos n
  have hpow : 2 ^ (k + n) = 2 ^ k * 2 ^ n := Nat.pow_add 2 k n
  simp only [nearest, hpow, Nat.mul_div_mul_right _ _ hpos, Nat.mul_mod_mul_right, ← Nat.mul_assoc,
    Nat.mul_lt_mul_right hpos, Nat.mul_left_inj (Nat.ne_of_gt hpos)]

theorem grid_le_of_lt {u n : Nat} (h : u < 2 ^ (n + 53)) : grid u ≤ n := by
  by_cases hu : u = 0
  · rw [hu]
    exact Nat.zero_le n
  · have hlog : u.log2 < n + 53 := (Nat.log2_lt hu).mpr h
    unfold grid
    omega

theorem grid_of_lt {u : Nat} (h : u < 2 ^ 53) : grid u = 0 :=
  Nat.le_zero.mp (grid_le_of_lt (n := 0) h)

theorem two_pow_grid_le {u : Nat} (hu : u ≠ 0) : 2 ^ grid u ≤ u := by
  exact Nat.le_trans (Nat.pow_le_pow_right (by decide) (Nat.sub_le _ _)) (Nat.log2_self_le hu)

theorem nearest_ne_zero {u : Nat} (hu : u ≠ 0) : nearest u (grid u) ≠ 0 := by
  have hdiv : 0 < u / 2 ^ grid u := Nat.div_pos (two_pow_grid_le hu) (Nat.two_pow_pos _)
  have := le_nearest u (grid u)
  omega

theorem mantissa_lt (u : Nat) : u / 2 ^ grid u < 2 ^ 53 := by
  rw [Nat.div_lt_iff_lt_mul (Nat.two_pow_pos _), ← Nat.pow_add, Nat.add_comm]
  exact lt_of_grid u

theorem mantissa_pos {u : Nat} (hu : 0 < u) : 0 < u / 2 ^ grid u :=
  Nat.div_pos (two_pow_grid_le (Nat.ne_of_gt hu)) (Nat.two_pow_pos _)

theorem le_mantissa {u : Nat} (h : 2 ^ 52 ≤ u) : 2 ^ 52 ≤ u / 2 ^ grid u := by
  rcases Nat.eq_zero_or_pos (grid u) with hzero | hpos
  · rwa [hzero, Nat.pow_zero, Nat.div_one]
  · rw [Nat.le_div_iff_mul_le (Nat.two_pow_pos _), ← Nat.pow_add, Nat.add_comm]
    exact le_of_grid hpos

theorem grid_mantissa {m n : Nat} (hlow : 2 ^ 52 ≤ m) (hhigh : m < 2 ^ 53) :
    grid (m * 2 ^ n) = n := by
  refine grid_eq ?_ ?_
  · rw [Nat.add_comm, Nat.pow_add]
    exact Nat.mul_le_mul_right _ hlow
  · rw [Nat.add_comm, Nat.pow_add]
    exact Nat.mul_lt_mul_of_pos_right hhigh (Nat.two_pow_pos n)

/-- What is rounded stays on its grid or gets to the beginning of the next. -/
theorem grid_le_rounded (u : Nat) : grid u ≤ grid (rounded u) := by
  by_cases h : 0 < grid u
  · have hle := le_rounded (le_of_grid h) (Nat.pow_dvd_pow 2 (Nat.le_add_right _ 52))
    have hbegin : grid (2 ^ (grid u + 52)) = grid u :=
      grid_eq (Nat.le_refl _) (Nat.pow_lt_pow_right (by decide) (by omega))
    have := grid_le_of_le hle
    omega
  · omega

theorem onGrid_rounded (u : Nat) : OnGrid (rounded u) := by
  have hdiv : u / 2 ^ grid u < 2 ^ 53 := by
    rw [Nat.div_lt_iff_lt_mul (Nat.two_pow_pos _), ← Nat.pow_add, Nat.add_comm]
    exact lt_of_grid u
  have hnearest := nearest_le u (grid u)
  unfold OnGrid rounded
  rcases Nat.lt_or_ge (nearest u (grid u)) (2 ^ 53) with hlt | hge
  · have hle : grid (nearest u (grid u) * 2 ^ grid u) ≤ grid u := by
      refine grid_le_of_lt ?_
      rw [Nat.add_comm, Nat.pow_add]
      exact Nat.mul_lt_mul_of_pos_right hlt (Nat.two_pow_pos _)
    exact Nat.dvd_trans (Nat.pow_dvd_pow 2 hle) (Nat.dvd_mul_left _ _)
  · have hmax : nearest u (grid u) = 2 ^ 53 := by omega
    have hgrid : grid (2 ^ 53 * 2 ^ grid u) = grid u + 1 := by
      rw [← Nat.pow_add]
      exact grid_eq (Nat.pow_le_pow_right (by decide) (by omega))
        (Nat.pow_lt_pow_right (by decide) (by omega))
    rw [hmax, hgrid, ← Nat.pow_add]
    exact Nat.pow_dvd_pow 2 (by omega)

/-! ## 3. Sums and differences -/

/-- **Whether a number that is added to `t` is seen** on a grid with steps of `g`: it is more than
half a step, or just half a step where `t` is odd. -/
def Seen (g t d : Nat) : Prop := g < 2 * d ∨ (g = 2 * d ∧ t / g % 2 = 1)

instance (g t d : Nat) : Decidable (Seen g t d) :=
  inferInstanceAs (Decidable (_ ∨ (_ ∧ _)))

variable {t d : Nat}

theorem seen_of_le {g : Nat} (hg : 0 < g) (h : g ≤ d) : Seen g t d :=
  .inl (by omega)

theorem lt_rounded_of_step_le (ht : OnGrid t) (hd : 2 ^ grid t ≤ d) : t < rounded (t + d) := by
  have hpos : 0 < 2 ^ grid t := Nat.two_pow_pos _
  rcases Nat.eq_or_lt_of_le (grid_le_of_le (Nat.le_add_right t d)) with heq | hlt
  · have hstep : 2 ^ grid (t + d) ∣ t + 2 ^ grid t := by
      rw [← heq]
      exact Nat.dvd_add ht (Nat.dvd_refl _)
    have := le_rounded (Nat.add_le_add_left hd t) hstep
    omega
  · -- The sum lies on a coarser grid, and its beginning is between the number and the sum.
    have hbegin := le_rounded (le_of_grid (u := t + d) (by omega))
      (Nat.pow_dvd_pow 2 (Nat.le_add_right _ 52))
    have hend := lt_of_grid t
    have hle : 2 ^ (grid t + 53) ≤ 2 ^ (grid (t + d) + 52) :=
      Nat.pow_le_pow_right (by decide) (by omega)
    omega

theorem rounded_add_lt_iff (ht : OnGrid t) (hd : 0 < d) :
    t < rounded (t + d) ↔ Seen (2 ^ grid t) t d := by
  by_cases hstep : 2 ^ grid t ≤ d
  · exact iff_of_true (lt_rounded_of_step_le ht hstep) (seen_of_le (Nat.two_pow_pos _) hstep)
  · have hgrid : 0 < grid t := by
      refine Nat.pos_of_ne_zero fun hzero => ?_
      rw [hzero] at hstep
      omega
    have hlow := le_of_grid hgrid
    have hhigh := lt_of_grid t
    obtain ⟨q, hq⟩ := ht
    -- The sum is on the grid of the number.
    have hsame : grid (t + d) = grid t := by
      refine grid_eq (by omega) ?_
      have hlt : q < 2 ^ 53 := by
        refine Nat.lt_of_mul_lt_mul_left (a := 2 ^ grid t) ?_
        rw [← hq, ← Nat.pow_add]
        exact hhigh
      have hmul := Nat.mul_le_mul_left (2 ^ grid t) hlt
      rw [Nat.mul_succ, ← hq, ← Nat.pow_add] at hmul
      omega
    have hiff := lt_nearest_iff (q := q) (Nat.not_le.mp hstep)
    have hdiv : t / 2 ^ grid t = q := by
      conv => lhs; lhs; rw [hq]
      exact Nat.mul_div_cancel_left q (Nat.two_pow_pos _)
    rw [Seen, hdiv, ← hiff, ← hq, rounded, hsame]
    conv => lhs; lhs; rw [hq, Nat.mul_comm]
    exact Nat.mul_lt_mul_right (Nat.two_pow_pos _)

/-- **What is seen of a difference**, on the grid of the number before. -/
theorem rounded_sub_lt_iff (ht : OnGrid t) (hd : 0 < d) (hlt : d < t) :
    rounded (t - d) < t ↔ Seen (2 ^ grid (t - 1)) t d := by
  have hle : grid (t - d) ≤ grid (t - 1) := grid_le_of_le (by omega)
  have hdvd : 2 ^ grid (t - 1) ∣ t :=
    Nat.dvd_trans (Nat.pow_dvd_pow 2 (grid_le_of_le (Nat.sub_le t 1))) ht
  have hpos : 0 < 2 ^ grid (t - 1) := Nat.two_pow_pos _
  by_cases hstep : 2 ^ grid (t - 1) ≤ d
  · refine iff_of_true ?_ (seen_of_le hpos hstep)
    have hbefore : 2 ^ grid (t - d) ∣ t - 2 ^ grid (t - 1) :=
      Nat.dvd_trans (Nat.pow_dvd_pow 2 hle) (Nat.dvd_sub hdvd (Nat.dvd_refl _))
    have := rounded_le (Nat.sub_le_sub_left hstep t) hbefore
    omega
  · have hgrid : 0 < grid (t - 1) := by
      refine Nat.pos_of_ne_zero fun hzero => ?_
      rw [hzero] at hstep
      omega
    have hlow := le_of_grid hgrid
    have hhigh := lt_of_grid (t - 1)
    generalize grid (t - 1) = n at *
    have hfits : 2 ^ n ≤ t := Nat.le_of_dvd (by omega) hdvd
    obtain ⟨q, hq⟩ := hdvd
    have hmany : 2 ^ 52 < q := by
      refine Nat.lt_of_mul_lt_mul_left (a := 2 ^ n) ?_
      rw [← hq, ← Nat.pow_add]
      omega
    have hsplit : t - d = 2 ^ n * (q - 1) + (2 ^ n - d) := by
      rw [Nat.mul_sub_one, ← hq]
      omega
    -- The difference is on the grid of the number before.
    have hsame : grid (t - d) = n := by
      refine grid_eq ?_ (by omega)
      have hmul := Nat.mul_le_mul_left (2 ^ n) hmany
      rw [Nat.mul_succ, ← hq, ← Nat.pow_add] at hmul
      omega
    have hiff := lt_nearest_iff (q := q - 1) (d := 2 ^ n - d) (n := n) (by omega)
    have hfloor : q - 1 ≤ nearest (t - d) n := by
      refine Nat.le_trans ?_ (le_nearest (t - d) n)
      rw [hsplit, Nat.mul_add_div hpos]
      exact Nat.le_add_right _ _
    have hdiv : t / 2 ^ n = q := by rw [hq, Nat.mul_div_cancel_left q hpos]
    have hrounded : rounded (t - d) < t ↔ nearest (t - d) n < q := by
      rw [rounded, hsame]
      conv => lhs; rhs; rw [hq, Nat.mul_comm]
      exact Nat.mul_lt_mul_right hpos
    have heven : (2 ^ n) % 2 = 0 := by
      rw [← Nat.succ_pred_eq_of_pos hgrid, Nat.pow_succ, Nat.mul_mod_left]
    rw [← hsplit] at hiff
    rw [hrounded, Seen, hdiv]
    omega

end Tombola.Binary
