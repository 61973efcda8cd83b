import Tombola.Proofs.Float.Rounding
/-!
# Floating-point numbers in units

Arithmetic on floating-point numbers is defined on signs, mantissas and exponents.  A mantissa is
shifted to the right until its exponent is the one that its size asks for; two bits remember what
was dropped, and decide how the rest is rounded.  Counted in units of the smallest positive
number, which is `2 ^ -1074`, this is what `rounded` does: no digit but those beyond the grid is
dropped, and a carry out of the last digit leads to the beginning of the next grid.

Main statement: `round_eq`.
-/

namespace Tombola.Binary

open Float.Model Float.Model.UnpackedFloat

/-! ## 1. Shifting -/

/-- What is left of a number after `n` of its digits were dropped.  Of the dropped ones the
first is remembered, and whether all others were zero. -/
structure Shifted (m n : Nat) (em : ExtendedMantissa) : Prop where
  mantissa : em.mantissa = m / 2 ^ n
  round : em.roundBit = decide (2 ^ n ≤ 2 * (m % 2 ^ n))
  sticky : em.stickyBit = decide (2 * (m % 2 ^ n) % 2 ^ n ≠ 0)

theorem shifted_zero (m : Nat) : Shifted m 0 ⟨m, false, false⟩ := by
  constructor
  · simp
  · simp [Nat.mod_one]
  · simp [Nat.mod_one]

theorem Shifted.step {m n : Nat} {em : ExtendedMantissa} (h : Shifted m n em) :
    Shifted m (n + 1) em.shiftRightOne := by
  have hpos : 0 < 2 ^ n := Nat.two_pow_pos n
  have hlow : m % 2 ^ n < 2 ^ n := Nat.mod_lt _ hpos
  have hmod : m % 2 ^ (n + 1) = m % 2 ^ n + 2 ^ n * (m / 2 ^ n % 2) := Nat.mod_pow_succ
  have hpow : 2 ^ (n + 1) = 2 * 2 ^ n := Nat.pow_succ'
  constructor
  · simp only [ExtendedMantissa.shiftRightOne, h.mantissa]
    rw [Nat.div_div_eq_div_mul, ← Nat.pow_succ]
  · simp only [ExtendedMantissa.shiftRightOne, h.mantissa]
    rcases Nat.mod_two_eq_zero_or_one (m / 2 ^ n) with hbit | hbit
    · rw [hbit, Nat.mul_zero, Nat.add_zero] at hmod
      rw [hmod, hpow, hbit]
      exact (decide_eq_false (by omega)).symm
    · rw [hbit, Nat.mul_one] at hmod
      rw [hmod, hpow, hbit]
      exact (decide_eq_true (by omega)).symm
  · have hrest : 2 * (m % 2 ^ (n + 1)) % 2 ^ (n + 1) = 2 * (m % 2 ^ n) := by
      rw [hmod, Nat.mul_add, ← Nat.mul_assoc, ← hpow, Nat.add_mul_mod_self_left,
        Nat.mod_eq_of_lt (by omega)]
    simp only [ExtendedMantissa.shiftRightOne, h.round, h.sticky, hrest]
    by_cases hhalf : 2 ^ n ≤ 2 * (m % 2 ^ n)
    · rw [decide_eq_true hhalf, Bool.true_or]
      exact (decide_eq_true (by omega)).symm
    · rw [decide_eq_false hhalf, Bool.false_or, Nat.mod_eq_of_lt (Nat.not_le.mp hhalf)]

theorem shifted_shiftRight (m n : Nat) :
    Shifted m n ((⟨m, false, false⟩ : ExtendedMantissa) >>> n) := by
  induction n with
  | zero => exact shifted_zero m
  | succ n ih => exact ih.step

/-- **What is remembered is enough to round.**  Digits are dropped one by one, and of all that were
dropped only two bits are kept: the last one, and whether any before it was set. -/
theorem Shifted.rounded {m n : Nat} {em : ExtendedMantissa} (h : Shifted m n em) :
    em.roundedMantissa = nearest m n := by
  obtain ⟨mantissa, roundBit, stickyBit⟩ := em
  obtain ⟨hm, hr, hs⟩ := h
  simp only at hm hr hs
  have hlow : m % 2 ^ n < 2 ^ n := Nat.mod_lt _ (Nat.two_pow_pos n)
  subst hm
  unfold nearest
  cases roundBit with
  | false =>
    have hless : 2 * (m % 2 ^ n) < 2 ^ n := by simpa using hr
    rw [if_pos hless]
    cases stickyBit <;> rfl
  | true =>
    have hmore : 2 ^ n ≤ 2 * (m % 2 ^ n) := by simpa using hr
    have hexact : 2 * (m % 2 ^ n) % 2 ^ n = 2 * (m % 2 ^ n) - 2 ^ n := by
      rw [Nat.mod_eq_sub_mod hmore, Nat.mod_eq_of_lt (by omega)]
    rw [if_neg (Nat.not_lt.mpr hmore)]
    cases stickyBit with
    | false =>
      have htie : 2 * (m % 2 ^ n) % 2 ^ n = 0 := by simpa using hs
      rw [if_pos (by omega)]
      rfl
    | true =>
      have hover : 2 * (m % 2 ^ n) % 2 ^ n ≠ 0 := by simpa using hs
      rw [if_neg (by omega)]
      rfl

/-! ## 2. Exponents -/

theorem targetExponent_eq {m : Nat} (hm : m ≠ 0) (n : Nat) :
    Format.binary64.targetExponent (totalExponent m ((n : Int) - 1074)) =
      (grid (m * 2 ^ n) : Int) - 1074 := by
  rw [grid_mul_two_pow hm]
  have hbits : Format.binary64.mantissaBits = 53 := rfl
  have hleast : Format.binary64.minExponent = -1074 := rfl
  simp only [Format.targetExponent, totalExponent, hbits, hleast]
  omega

/-- What becomes of a number of units when its digits beyond the grid are dropped. -/
theorem shiftToTargetExponent_eq {m n : Nat} (hm : m ≠ 0) (hn : n ≤ grid (m * 2 ^ n)) :
    ∃ em, shiftToTargetExponent Format.binary64 m ((n : Int) - 1074) .exact =
        (em, (grid (m * 2 ^ n) : Int) - 1074) ∧
      em.mantissa = m * 2 ^ n / 2 ^ grid (m * 2 ^ n) ∧
      em.roundedMantissa = nearest (m * 2 ^ n) (grid (m * 2 ^ n)) := by
  obtain ⟨k, hk⟩ : ∃ k, grid (m * 2 ^ n) = k + n := ⟨_, (Nat.sub_add_cancel hn).symm⟩
  have hshift := shifted_shiftRight m k
  have hamount : ((grid (m * 2 ^ n) : Int) - 1074 - ((n : Int) - 1074)).toNat = k := by omega
  refine ⟨(⟨m, false, false⟩ : ExtendedMantissa) >>> k, ?_, ?_, ?_⟩
  · unfold shiftToTargetExponent shiftToExponent
    simp only [targetExponent_eq hm, hamount, ExtendedMantissa.ofMantissaAndAccuracy, Prod.mk.injEq,
      true_and]
    omega
  · rw [hshift.mantissa, hk, Nat.pow_add, Nat.mul_div_mul_right _ _ (Nat.two_pow_pos n)]
  · rw [hshift.rounded, hk, nearest_scale]

/-! ## 3. Numbers of units -/

theorem finite_congr (s : Sign) {m m' : Nat} {e e' : Int} (hm : m = m') (he : e = e') (h : 0 < m)
    (h' : 0 < m') : UnpackedFloat.finite s m e h = .finite s m' e' h' := by
  subst hm he
  rfl

/-- The number of so many units, with a sign. -/
def ofUnits (s : Sign) (u : Nat) : UnpackedFloat :=
  if h : u / 2 ^ grid u = 0 then .zero s
  else .finite s (u / 2 ^ grid u) ((grid u : Int) - 1074) (Nat.pos_of_ne_zero h)

theorem ofUnits_zero (s : Sign) : ofUnits s 0 = .zero s := rfl

theorem ofUnits_of_pos (s : Sign) {u : Nat} (hu : 0 < u) :
    ofUnits s u = .finite s (u / 2 ^ grid u) ((grid u : Int) - 1074) (mantissa_pos hu) :=
  dif_neg (Nat.ne_of_gt (mantissa_pos hu))

@[elab_as_elim] theorem ofUnits_cases {motive : UnpackedFloat → Prop} (s : Sign) (u : Nat)
    (zero : motive (.zero s)) (finite : ∀ m e h, motive (.finite s m e h)) :
    motive (ofUnits s u) := by
  rcases Nat.eq_zero_or_pos u with rfl | hpos
  · exact zero
  · rw [ofUnits_of_pos s hpos]
    exact finite _ _ _

theorem ofUnits_mul (s : Sign) {m n : Nat} (hlow : 2 ^ 52 ≤ m) (hhigh : m < 2 ^ 53) (hpos : 0 < m) :
    ofUnits s (m * 2 ^ n) = .finite s m ((n : Int) - 1074) hpos := by
  have hgrid : grid (m * 2 ^ n) = n := grid_mantissa hlow hhigh
  rw [ofUnits_of_pos s (Nat.mul_pos hpos (Nat.two_pow_pos n))]
  refine finite_congr s ?_ (by rw [hgrid]) _ hpos
  rw [hgrid, Nat.mul_div_cancel m (Nat.two_pow_pos n)]

/-- What is left of a number when its digits beyond the grid are dropped, the rest is rounded, and
a carry is made up for. -/
theorem roundWithAccuracy_eq (s : Sign) {m u : Nat} {e e' : Int} {em em' : ExtendedMantissa}
    (hfirst : shiftToTargetExponent Format.binary64 m e .exact = (em, e'))
    (hsecond : shiftToTargetExponent Format.binary64 em.roundedMantissa e' .exact
      = (em', (grid u : Int) - 1074))
    (hmantissa : em'.mantissa = u / 2 ^ grid u) :
    roundWithAccuracy Format.binary64 s m e .exact = ofUnits s u := by
  obtain ⟨mantissa, _, _⟩ := em'
  subst hmantissa
  rw [roundWithAccuracy, hfirst]
  dsimp only
  rw [hsecond]
  rfl

/-- **A number of units is rounded to the grid at its place.** -/
theorem round_eq (s : Sign) {m : Nat} (hm : m ≠ 0) (n : Nat) :
    UnpackedFloat.round Format.binary64 s m ((n : Int) - 1074)
      = ofUnits s (rounded (m * 2 ^ n)) := by
  have hu : m * 2 ^ n ≠ 0 := Nat.mul_ne_zero hm (Nat.ne_of_gt (Nat.two_pow_pos n))
  -- Digits are added first if there are too few.
  obtain ⟨a, ha⟩ : ∃ a, a = ((n : Int) - 1074 - ((grid (m * 2 ^ n) : Int) - 1074)).toNat := ⟨_, rfl⟩
  have hunits : m <<< a * 2 ^ (n - a) = m * 2 ^ n := by
    rw [Nat.shiftLeft_eq, Nat.mul_assoc, ← Nat.pow_add, Nat.add_sub_cancel' (by omega)]
  have hmore : m <<< a ≠ 0 := by
    rw [Nat.shiftLeft_eq]
    exact Nat.mul_ne_zero hm (Nat.ne_of_gt (Nat.two_pow_pos a))
  obtain ⟨em, hfirst, -, hrounded⟩ := shiftToTargetExponent_eq (n := n - a) hmore
    (by rw [hunits]; omega)
  rw [hunits] at hfirst hrounded
  obtain ⟨em', hsecond, hmantissa, -⟩ := shiftToTargetExponent_eq (n := grid (m * 2 ^ n))
    (nearest_ne_zero hu) (grid_le_rounded (m * 2 ^ n))
  have hexponent : (n : Int) - 1074 - (a : Int) = ((n - a : Nat) : Int) - 1074 := by omega
  have hround : nearest (m * 2 ^ n) (grid (m * 2 ^ n)) * 2 ^ grid (m * 2 ^ n)
      = rounded (m * 2 ^ n) := rfl
  rw [hround, ← hrounded] at hsecond
  rw [hround] at hmantissa
  rw [UnpackedFloat.round, decreaseExponent, targetExponent_eq hm, ← ha, hexponent]
  exact roundWithAccuracy_eq s hfirst hsecond hmantissa

end Tombola.Binary
