import Tombola.Proofs.Float.Fields
/-!
# What is noticed when floating-point numbers are added

In units, the order of floating-point numbers is that of whole numbers, and their sum is the sum of
whole numbers, rounded to its grid.  So whether a sum is greater than the number that something
positive is added to can be told from the grid at that number.  What is infinite is always noticed,
and what is no number never is.

Main statements:

* `lt_ofUnits`, `add_ofUnits`: order and sums in units;
* `lt_add_iff`: whether a sum is greater.
-/

namespace Tombola.Binary

open Float.Model Float.Model.UnpackedFloat

/-! ## 1. Order -/

/-- Of two numbers the greater has the greater exponent, or the same and the greater digits. -/
theorem exponent_or_mantissa_lt {u v : Nat} (hv : OnGrid v) (h : u < v) :
    grid u < grid v ∨ (grid u = grid v ∧ u / 2 ^ grid u < v / 2 ^ grid v) := by
  rcases Nat.lt_or_eq_of_le (grid_le_of_le (Nat.le_of_lt h)) with hlt | heq
  · exact .inl hlt
  · refine .inr ⟨heq, ?_⟩
    rw [heq]
    exact Nat.div_lt_div_of_lt_of_dvd hv h

/-- The order of exponents and digits is the order of the numbers. -/
theorem compare_units {u v : Nat} (hu : OnGrid u) (hv : OnGrid v) :
    (compare ((grid u : Int) - 1074) ((grid v : Int) - 1074)).then
      (compare (u / 2 ^ grid u) (v / 2 ^ grid v)) = compare u v := by
  rcases Nat.lt_trichotomy u v with hlt | rfl | hgt
  · rw [Nat.compare_eq_lt.mpr hlt]
    rcases exponent_or_mantissa_lt hv hlt with hexponent | ⟨hsame, hmantissa⟩
    · rw [Int.compare_eq_lt.mpr (by omega)]
      rfl
    · rw [Int.compare_eq_eq.mpr (by omega), Nat.compare_eq_lt.mpr hmantissa]
      rfl
  · rw [Int.compare_eq_eq.mpr rfl, Nat.compare_eq_eq.mpr rfl, Nat.compare_eq_eq.mpr rfl]
    rfl
  · rw [Nat.compare_eq_gt.mpr hgt]
    rcases exponent_or_mantissa_lt hu hgt with hexponent | ⟨hsame, hmantissa⟩
    · rw [Int.compare_eq_gt.mpr (by omega)]
      rfl
    · rw [Int.compare_eq_eq.mpr (by omega), Nat.compare_eq_gt.mpr hmantissa]
      rfl

@[simp] theorem apply_zero (s : Sign) : s.apply 0 = 0 := by
  cases s <;> rfl

theorem zero_lt_ofUnits (s s' : Sign) {v : Nat} (hv : 0 < v) :
    (ofUnits s 0).lt (ofUnits s' v) = true ↔ 0 < s'.apply v := by
  rw [ofUnits_zero, ofUnits_of_pos s' hv]
  cases s' with
  | negative =>
    refine iff_of_false Bool.false_ne_true ?_
    simp only [Sign.apply]
    omega
  | positive =>
    refine iff_of_true rfl ?_
    simp only [Sign.apply]
    omega

theorem ofUnits_lt_zero (s s' : Sign) {u : Nat} (hu : 0 < u) :
    (ofUnits s u).lt (ofUnits s' 0) = true ↔ s.apply u < 0 := by
  rw [ofUnits_zero, ofUnits_of_pos s hu]
  cases s with
  | negative =>
    refine iff_of_true rfl ?_
    simp only [Sign.apply]
    omega
  | positive =>
    refine iff_of_false Bool.false_ne_true ?_
    simp only [Sign.apply]
    omega

/-- **The order of signed numbers of units.** -/
theorem lt_ofUnits {s s' : Sign} {u v : Nat} (hu : OnGrid u) (hv : OnGrid v) :
    (ofUnits s u).lt (ofUnits s' v) = true ↔ s.apply u < s'.apply v := by
  rcases Nat.eq_zero_or_pos u with rfl | hupos <;> rcases Nat.eq_zero_or_pos v with rfl | hvpos
  · rw [Int.natCast_zero, apply_zero, apply_zero]
    exact iff_of_false Bool.false_ne_true (Int.lt_irrefl 0)
  · rw [Int.natCast_zero, apply_zero]
    exact zero_lt_ofUnits s s' hvpos
  · rw [Int.natCast_zero, apply_zero]
    exact ofUnits_lt_zero s s' hupos
  · have horder := compare_units hu hv
    rw [ofUnits_of_pos s hupos, ofUnits_of_pos s' hvpos]
    cases s <;> cases s'
    case negative.negative =>
      show (Ordering.swap (Ordering.then _ _) == .lt) = true ↔ -(u : Int) < -(v : Int)
      rw [horder, beq_iff_eq, Ordering.swap_eq_lt, Nat.compare_eq_gt]
      omega
    case negative.positive =>
      refine iff_of_true rfl ?_
      simp only [Sign.apply]
      omega
    case positive.negative =>
      refine iff_of_false Bool.false_ne_true ?_
      simp only [Sign.apply]
      omega
    case positive.positive =>
      show (Ordering.then _ _ == .lt) = true ↔ (u : Int) < (v : Int)
      rw [horder, beq_iff_eq, Nat.compare_eq_lt]
      exact Int.ofNat_lt.symm

/-! ## 2. Sums -/

@[simp] theorem natAbs_apply (s : Sign) (u : Nat) : (s.apply u).natAbs = u := by
  cases s <;> simp [Sign.apply]

theorem apply_mul (s : Sign) (m n : Nat) : s.apply ((m * n : Nat) : Int) = s.apply m * n := by
  cases s with
  | negative => exact (congrArg Neg.neg (Int.natCast_mul m n)).trans (Int.neg_mul _ _).symm
  | positive => exact Int.natCast_mul m n

/-- A whole number of units is rounded to its grid, and its sign is kept. -/
theorem normalize_eq (w : Int) (n : Nat) :
    ∃ r : Sign, UnpackedFloat.normalize Format.binary64 w ((n : Int) - 1074) .positive
        = ofUnits r (rounded (w.natAbs * 2 ^ n))
      ∧ r.apply w.natAbs = w := by
  rcases Int.lt_trichotomy w 0 with hlt | rfl | hgt
  · refine ⟨.negative, ?_, ?_⟩
    · have habs : (-w).toNat = w.natAbs := by omega
      rw [UnpackedFloat.normalize, Int.compare_eq_lt.mpr hlt, habs]
      exact round_eq _ (by omega) n
    · simp only [Sign.apply]
      omega
  · refine ⟨.positive, ?_, rfl⟩
    rw [Int.natAbs_zero, Nat.zero_mul]
    rfl
  · refine ⟨.positive, ?_, ?_⟩
    · have habs : w.toNat = w.natAbs := by omega
      rw [UnpackedFloat.normalize, Int.compare_eq_gt.mpr hgt, habs]
      exact round_eq _ (by omega) n
    · simp only [Sign.apply]
      omega

/-- A number of units with more digits, down to the exponent of another. -/
theorem units_of_decrease {u n : Nat} (hu : OnGrid u) (h : n ≤ grid u) :
    (decreaseExponent (u / 2 ^ grid u) ((grid u : Int) - 1074) ((n : Int) - 1074)).1 * 2 ^ n
      = u := by
  have hshift : ((grid u : Int) - 1074 - ((n : Int) - 1074)).toNat = grid u - n := by omega
  rw [decreaseExponent, hshift, Nat.shiftLeft_eq, Nat.mul_assoc, ← Nat.pow_add,
    Nat.sub_add_cancel h, Nat.div_mul_cancel hu]

/-- Both numbers are brought to the less of their exponents, and added there. -/
theorem add_finite (s s' : Sign) {m m' : Nat} {e e' : Int} (h : 0 < m) (h' : 0 < m') :
    UnpackedFloat.add Format.binary64 (.finite s m e h) (.finite s' m' e' h')
      = UnpackedFloat.normalize Format.binary64
          (s.apply (decreaseExponent m e (min e e')).1
            + s'.apply (decreaseExponent m' e' (min e e')).1) (min e e') .positive := rfl

/-- **A sum is the sum of the units, rounded to its grid.**  Both numbers are brought to one
exponent and added exactly, so there is only one rounding, at the end.  The sign of a sum that is
zero is left open. -/
theorem add_ofUnits (s s' : Sign) {u v : Nat} (hu : OnGrid u) (hv : OnGrid v) :
    ∃ r : Sign, UnpackedFloat.add Format.binary64 (ofUnits s u) (ofUnits s' v)
        = ofUnits r (rounded (s.apply u + s'.apply v).natAbs)
      ∧ r.apply (s.apply u + s'.apply v).natAbs = s.apply u + s'.apply v := by
  rcases Nat.eq_zero_or_pos u with rfl | hupos <;> rcases Nat.eq_zero_or_pos v with rfl | hvpos
  · cases s <;> cases s' <;> exact ⟨_, rfl, rfl⟩
  · refine ⟨s', ?_, by simp⟩
    simp only [Int.natCast_zero, apply_zero, Int.zero_add, natAbs_apply, rounded_of_onGrid hv]
    rw [ofUnits_zero, ofUnits_of_pos s' hvpos]
    rfl
  · refine ⟨s, ?_, by simp⟩
    simp only [Int.natCast_zero, apply_zero, Int.add_zero, natAbs_apply, rounded_of_onGrid hu]
    rw [ofUnits_zero, ofUnits_of_pos s hupos]
    rfl
  · obtain ⟨n, hn⟩ : ∃ n, n = min (grid u) (grid v) := ⟨_, rfl⟩
    have hleft := units_of_decrease (n := n) hu (by omega)
    have hright := units_of_decrease (n := n) hv (by omega)
    have hexponent : min ((grid u : Int) - 1074) ((grid v : Int) - 1074) = (n : Int) - 1074 := by
      omega
    rw [ofUnits_of_pos s hupos, ofUnits_of_pos s' hvpos, add_finite, hexponent]
    generalize (decreaseExponent (u / 2 ^ grid u) _ _).1 = a at *
    generalize (decreaseExponent (v / 2 ^ grid v) _ _).1 = b at *
    obtain ⟨r, hr, happly⟩ := normalize_eq (s.apply a + s'.apply b) n
    have hsum : s.apply u + s'.apply v = (s.apply a + s'.apply b) * (2 ^ n : Nat) := by
      rw [← hleft, ← hright, apply_mul, apply_mul, Int.add_mul]
    have habs : (s.apply u + s'.apply v).natAbs = (s.apply a + s'.apply b).natAbs * 2 ^ n := by
      rw [hsum, Int.natAbs_mul, Int.natAbs_natCast]
    refine ⟨r, ?_, ?_⟩
    · rw [habs]
      exact hr
    · rw [habs, apply_mul, happly, hsum]

/-! ## 3. What is seen of a sum -/

/-- How far it is to the next number from one of so many units: below zero the next is nearer to
zero, and so the grid of the number before counts. -/
def step (t : Int) : Nat := 2 ^ grid (if 0 ≤ t then t.natAbs else t.natAbs - 1)

variable {u v d : Nat} {r : Sign}

theorem lt_rounded_sum_of_nonneg (hu : OnGrid u) (hd : 0 < d)
    (hr : r.apply ((u + d : Nat) : Int) = (u : Int) + d) :
    (u : Int) < r.apply (rounded (u + d)) ↔ Seen (2 ^ grid u) u d := by
  rw [← rounded_add_lt_iff hu hd]
  cases r with
  | negative =>
    simp only [Sign.apply] at hr
    omega
  | positive => exact Int.ofNat_lt

theorem lt_rounded_sum_of_neg (hu : OnGrid u) (hupos : 0 < u) (hd : 0 < d)
    (hr : r.apply (-(u : Int) + d).natAbs = -(u : Int) + d) :
    -(u : Int) < r.apply (rounded (-(u : Int) + d).natAbs) ↔ Seen (2 ^ grid (u - 1)) u d := by
  by_cases hless : d < u
  · have habs : (-(u : Int) + d).natAbs = u - d := by omega
    rw [habs, ← rounded_sub_lt_iff hu hd hless]
    cases r with
    | negative =>
      simp only [Sign.apply]
      omega
    | positive =>
      simp only [Sign.apply] at hr
      omega
  · -- The sum is not below zero any more, and what is added is no less than a step.
    have hstep : 2 ^ grid (u - 1) ≤ d :=
      calc 2 ^ grid (u - 1) ≤ 2 ^ grid u :=
            Nat.pow_le_pow_right (by decide) (grid_le_of_le (Nat.sub_le u 1))
        _ ≤ u := two_pow_grid_le (Nat.ne_of_gt hupos)
        _ ≤ d := Nat.not_lt.mp hless
    refine iff_of_true ?_ (seen_of_le (Nat.two_pow_pos _) hstep)
    cases r with
    | negative =>
      simp only [Sign.apply] at hr
      have hzero : (-(u : Int) + d).natAbs = 0 := by omega
      have hround : rounded 0 = 0 := rfl
      rw [hzero, hround, Int.natCast_zero, apply_zero]
      omega
    | positive =>
      simp only [Sign.apply]
      omega

/-- **What is seen of a sum of signed numbers.** -/
theorem lt_rounded_sum_iff {t : Int} (ht : OnGrid t.natAbs) (hd : 0 < d)
    (hr : r.apply (t + d).natAbs = t + d) :
    t < r.apply (rounded (t + d).natAbs) ↔ Seen (step t) t.natAbs d := by
  by_cases hsign : 0 ≤ t
  · obtain ⟨u, rfl⟩ := Int.eq_ofNat_of_zero_le hsign
    have habs : ((u : Int) + d).natAbs = u + d := by omega
    rw [habs] at hr ⊢
    rw [step, if_pos hsign]
    exact lt_rounded_sum_of_nonneg ht hd hr
  · obtain ⟨u, rfl⟩ : ∃ u : Nat, t = -u := ⟨t.natAbs, by omega⟩
    rw [step, if_neg hsign]
    rw [Int.natAbs_neg, Int.natAbs_natCast] at ht ⊢
    exact lt_rounded_sum_of_neg ht (by omega) hd hr

/-- What is added to a number gets over the greatest only upwards. -/
theorem positive_of_overflow {t : Int} (ht : OnGrid t.natAbs)
    (hr : r.apply (t + d).natAbs = t + d) (h : grid t.natAbs < grid (rounded (t + d).natAbs)) :
    r = .positive ∧ t < r.apply (rounded (t + d).natAbs) := by
  have hmore : t.natAbs < rounded (t + d).natAbs := Nat.lt_of_not_le fun hle =>
    Nat.not_lt.mpr (grid_le_of_le hle) h
  cases r with
  | negative =>
    simp only [Sign.apply] at hr
    have hle : (t + d).natAbs ≤ t.natAbs := by omega
    have hround := rounded_le hle (Nat.dvd_trans (Nat.pow_dvd_pow 2 (grid_le_of_le hle)) ht)
    omega
  | positive =>
    refine ⟨rfl, ?_⟩
    simp only [Sign.apply]
    omega

/-- The sum of two numbers, as it is represented. -/
def sum (x y : UnpackedFloat) : UnpackedFloat :=
  UnpackedFloat.unpack Format.binary64
    (UnpackedFloat.pack Format.binary64 (UnpackedFloat.add Format.binary64 x y))

theorem lt_sum_notANumber (s : Sign) (u : Nat) :
    (ofUnits s u).lt (sum (ofUnits s u) .notANumber) = false := by
  have hsum : UnpackedFloat.add Format.binary64 (ofUnits s u) .notANumber = .notANumber :=
    ofUnits_cases s u rfl fun _ _ _ => rfl
  have hsame : UnpackedFloat.unpack Format.binary64
      (UnpackedFloat.pack Format.binary64 .notANumber) = .notANumber := rfl
  rw [sum, hsum, hsame]
  exact ofUnits_cases s u rfl fun _ _ _ => rfl

theorem lt_infinity (s : Sign) (u : Nat) : (ofUnits s u).lt (.infinity .positive) = true :=
  ofUnits_cases s u rfl fun _ _ _ => rfl

theorem lt_sum_infinity (s : Sign) (u : Nat) :
    (ofUnits s u).lt (sum (ofUnits s u) (.infinity .positive)) = true := by
  have hsum : UnpackedFloat.add Format.binary64 (ofUnits s u) (.infinity .positive)
      = .infinity .positive :=
    ofUnits_cases s u rfl fun _ _ _ => rfl
  have hsame : UnpackedFloat.unpack Format.binary64
      (UnpackedFloat.pack Format.binary64 (.infinity .positive)) = .infinity .positive := rfl
  rw [sum, hsum, hsame]
  exact lt_infinity s u

/-- **Whether a sum of units is greater**: what is added is seen. -/
theorem lt_sum_units {s : Sign} (hu : OnGrid u) (hfits : grid u < 2046) (hv : OnGrid v)
    (hpos : 0 < v) :
    (ofUnits s u).lt (sum (ofUnits s u) (ofUnits .positive v)) = true
      ↔ Seen (step (s.apply u)) u v := by
  obtain ⟨r, hsum, hr⟩ := add_ofUnits s .positive hu hv
  have happly : Sign.positive.apply v = (v : Int) := rfl
  rw [happly] at hsum hr
  have habs : (s.apply u).natAbs = u := natAbs_apply s u
  have hseen := lt_rounded_sum_iff (t := s.apply u) (by rwa [habs]) hpos hr
  have hround := onGrid_rounded (s.apply u + v).natAbs
  rw [habs] at hseen
  rw [sum, hsum, unpack_pack_ofUnits r hround, ← hseen]
  split
  · exact lt_ofUnits hu hround
  · next hover =>
    obtain ⟨rfl, hmore⟩ := positive_of_overflow (t := s.apply u) (by rwa [habs]) hr
      (by rw [habs]; omega)
    exact iff_of_true (lt_infinity s u) hmore

/-! ## 4. What is noticed -/

/-- A finite floating-point number in units; what is infinite or no number has none. -/
def units (x : Float) : Int :=
  match x.toModel.unpack with
  | .finite s m e _ => s.apply (m * 2 ^ (e + 1074).toNat : Nat)
  | _ => 0

theorem units_eq {x : Float} {s : Sign} {u : Nat} (h : OnGrid u)
    (hx : x.toModel.unpack = ofUnits s u) : units x = s.apply u := by
  unfold units
  rcases Nat.eq_zero_or_pos u with rfl | hpos
  · rw [hx, ofUnits_zero, Int.natCast_zero, apply_zero]
  · have hexponent : ((grid u : Int) - 1074 + 1074).toNat = grid u := by omega
    rw [hx, ofUnits_of_pos s hpos]
    show s.apply (u / 2 ^ grid u * 2 ^ ((grid u : Int) - 1074 + 1074).toNat : Nat) = s.apply u
    rw [hexponent, Nat.div_mul_cancel h]

/-- **Whether `d` is noticed** when it is added to `t`: it is infinite, or it is seen on the grid at
`t`. -/
def Noticed (t d : Float) : Prop :=
  d.isInf = true ∨ (d.isFinite = true ∧ Seen (step (units t)) (units t).natAbs (units d).natAbs)

instance (t d : Float) : Decidable (Noticed t d) :=
  inferInstanceAs (Decidable (_ ∨ (_ ∧ Seen _ _ _)))

theorem unpack_zero : (0 : Float).toModel.unpack = .zero .positive := by
  have hzero : (0 : Float).toModel = Float.Model.pack (.zero .positive) := by decide +kernel
  rw [hzero]
  rfl

theorem le_zero_iff (d : Float) : d ≤ 0 ↔ d.toModel.unpack.le (.zero .positive) = true := by
  rw [← unpack_zero]
  show decide (d.toModel.unpack.le (0 : Float).toModel.unpack = true) = true ↔ _
  exact decide_eq_true_iff

/-- What is not zero or less is greater, where it is a number of units. -/
theorem positive_of_not_le {s : Sign} {u : Nat} (h : ¬ (ofUnits s u).le (.zero .positive) = true) :
    s = .positive ∧ 0 < u := by
  rcases Nat.eq_zero_or_pos u with rfl | hpos
  · exact absurd rfl h
  · rw [ofUnits_of_pos s hpos] at h
    cases s with
    | negative => exact absurd rfl h
    | positive => exact ⟨rfl, hpos⟩

theorem lt_add_iff_sum (t d : Float) :
    t < t + d ↔ t.toModel.unpack.lt (sum t.toModel.unpack d.toModel.unpack) = true := by
  show decide (t.toModel.unpack.lt (sum t.toModel.unpack d.toModel.unpack) = true) = true ↔ _
  exact decide_eq_true_iff

theorem isFinite_ofUnits (s : Sign) (u : Nat) : (ofUnits s u).isFinite = true :=
  ofUnits_cases s u rfl fun _ _ _ => rfl

theorem isInf_ofUnits (s : Sign) (u : Nat) : (ofUnits s u).isInf = false :=
  ofUnits_cases s u rfl fun _ _ _ => rfl

theorem isUnits_of_isFinite {x : Float} (h : x.isFinite = true) : IsUnits x.toModel.unpack := by
  have h : x.toModel.unpack.isFinite = true := h
  rcases unpack_cases x.toModel with hnan | ⟨s, hinf⟩ | hunits
  · rw [hnan] at h
    exact absurd h Bool.false_ne_true
  · rw [hinf] at h
    exact absurd h Bool.false_ne_true
  · exact hunits

theorem not_noticed_of_notANumber {t d : Float} (h : d.toModel.unpack = .notANumber) :
    ¬ Noticed t d := by
  rintro (hinf | ⟨hfin, -⟩)
  · have hinf : d.toModel.unpack.isInf = true := hinf
    rw [h] at hinf
    cases hinf
  · have hfin : d.toModel.unpack.isFinite = true := hfin
    rw [h] at hfin
    cases hfin

/-- What is no number is never noticed. -/
theorem not_noticed_of_isNaN {t d : Float} (h : d.isNaN = true) : ¬ Noticed t d := by
  have h : d.toModel.unpack.isNaN = true := h
  refine not_noticed_of_notANumber ?_
  cases hd : d.toModel.unpack with
  | notANumber => rfl
  | infinity s => rw [hd] at h; cases h
  | zero s => rw [hd] at h; cases h
  | finite s m e hm => rw [hd] at h; cases h

/-- What is infinite is always noticed. -/
theorem noticed_of_infinity {t d : Float} {s : Sign} (h : d.toModel.unpack = .infinity s) :
    Noticed t d :=
  .inl (congrArg UnpackedFloat.isInf h)

/-- A number of units is noticed where it is seen. -/
theorem noticed_units_iff {t d : Float} {s r : Sign} (hu : OnGrid u) (hv : OnGrid v)
    (ht : t.toModel.unpack = ofUnits s u) (hd : d.toModel.unpack = ofUnits r v) :
    Noticed t d ↔ Seen (step (s.apply u)) u v := by
  have hinf : d.isInf = false := (congrArg UnpackedFloat.isInf hd).trans (isInf_ofUnits r v)
  have hfin : d.isFinite = true := (congrArg UnpackedFloat.isFinite hd).trans (isFinite_ofUnits r v)
  rw [Noticed, hinf, hfin, units_eq hu ht, units_eq hv hd, natAbs_apply, natAbs_apply]
  exact ⟨fun h => (h.resolve_left Bool.false_ne_true).2, fun h => .inr ⟨rfl, h⟩⟩

/-- **Whether a sum is greater** than the finite number to which something is added that is not zero
or less. -/
theorem lt_add_iff {t d : Float} (ht : t.isFinite = true) (hd : ¬ d ≤ 0) :
    t < t + d ↔ Noticed t d := by
  have hunits := isUnits_of_isFinite ht
  rw [le_zero_iff] at hd
  rw [lt_add_iff_sum]
  generalize hT : t.toModel.unpack = T at hunits
  obtain ⟨s, u, hu, hfits⟩ := hunits
  rcases unpack_cases d.toModel with hnan | ⟨r, hinf⟩ | hunits
  · rw [hnan, lt_sum_notANumber]
    exact iff_of_false Bool.false_ne_true (not_noticed_of_notANumber hnan)
  · rw [hinf] at hd ⊢
    cases r with
    | negative => exact absurd rfl hd
    | positive => exact iff_of_true (lt_sum_infinity s u) (noticed_of_infinity hinf)
  · generalize hD : d.toModel.unpack = D at hunits hd
    obtain ⟨r, v, hv, -⟩ := hunits
    obtain ⟨rfl, hpos⟩ := positive_of_not_le hd
    exact (lt_sum_units hu hfits hv hpos).trans (noticed_units_iff hu hv hT hD).symm

end Tombola.Binary
