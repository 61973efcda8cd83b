import Tombola.Proofs.Float.Units
/-!
# How floating-point numbers are represented

A floating-point number is represented in 64 bits: a sign, an exponent and the digits of the
mantissa, where the first digit is left out unless the exponent is the least.  The greatest
exponent stands for what is infinite or no number at all.  So a representation says no number, an
infinite one or a number of units on its grid, and every number of units on its grid has a
representation, if it is not too great.

Main statements:

* `unpack_pack_ofUnits`: what is represented is read back;
* `unpack_cases`: what a representation can say.
-/

namespace Tombola.Binary

open Float.Model Float.Model.UnpackedFloat

/-! ## 1. Fields -/

/-- The number that the fields of a representation say. -/
def ofFields (s : Sign) (e : BitVec 11) (m : BitVec 52) : UnpackedFloat :=
  if e = -1#11 then if m = 0#52 then .infinity s else .notANumber
  else if e = 0#11 then ofUnits s m.toNat
  else ofUnits s ((2 ^ 52 + m.toNat) * 2 ^ (e.toNat - 1))

theorem toNat_one_append (v : BitVec 52) : (1#1 ++ v).toNat = 2 ^ 52 + v.toNat := by
  rw [BitVec.toNat_append, ← Nat.shiftLeft_add_eq_or_of_lt v.isLt]
  rfl

theorem bias_eq : Format.binary64.exponentBias = 1023 := rfl

theorem bits_eq : Format.binary64.mantissaBitsWithoutImplicit = 52 := rfl

/-- The number that the fields say, by its sign, its mantissa and its exponent. -/
theorem ofFields_eq (s : Sign) (e : BitVec 11) (m : BitVec 52) (hm : m ≠ 0#52 → 0 < m.toNat)
    (hone : 0 < (1#1 ++ m).toNat) :
    ofFields s e m =
      if e = -1#11 then if m = 0#52 then .infinity s else .notANumber
      else if e = 0#11 then
        if h : m = 0#52 then .zero s
        else .finite s m.toNat ((e.toNat : Int) - (Format.binary64.exponentBias
          + Format.binary64.mantissaBitsWithoutImplicit) + 1) (hm h)
      else .finite s (1#1 ++ m).toNat ((e.toNat : Int) - (Format.binary64.exponentBias
          + Format.binary64.mantissaBitsWithoutImplicit)) hone := by
  rw [ofFields]
  by_cases hall : e = -1#11
  · rw [if_pos hall, if_pos hall]
  rw [if_neg hall, if_neg hall]
  by_cases he : e = 0#11
  · rw [if_pos he, if_pos he]
    subst he
    by_cases h : m = 0#52
    · subst h
      rfl
    · have hgrid : grid m.toNat = 0 := grid_of_lt (by omega)
      rw [dif_neg h, ofUnits_of_pos s (hm h)]
      refine finite_congr s ?_ (by rw [hgrid]; rfl) _ _
      rw [hgrid, Nat.pow_zero, Nat.div_one]
  · have hpos : 0 < e.toNat := Nat.pos_of_ne_zero fun hzero => he (BitVec.eq_of_toNat_eq hzero)
    have hexponent : ((e.toNat - 1 : Nat) : Int) - 1074 = (e.toNat : Int)
        - (Format.binary64.exponentBias + Format.binary64.mantissaBitsWithoutImplicit) := by
      rw [bias_eq, bits_eq]
      omega
    rw [if_neg he, if_neg he, ofUnits_mul s (Nat.le_add_right _ _) (by omega) (by omega)]
    exact finite_congr s (toNat_one_append m).symm hexponent _ _

theorem unpack_eq (b : BitVec 64) :
    UnpackedFloat.unpack Format.binary64 b
      = ofFields (Sign.ofBitVec (@unpackSign Format.binary64 b))
          (@unpackExponent Format.binary64 b) (@unpackMantissa Format.binary64 b) :=
  (ofFields_eq ..).symm

theorem unpack_packComponents (s : Sign) (e : BitVec 11) (m : BitVec 52) :
    UnpackedFloat.unpack Format.binary64 (packComponents Format.binary64 s e m)
      = ofFields s e m := by
  have hsign : unpackSign (packComponents Format.binary64 s e m) = s.toBitVec := by
    show BitVec.extractLsb' 63 1 (s.toBitVec ++ e ++ m) = s.toBitVec
    rw [BitVec.extractLsb'_append_eq_of_le (by decide),
      BitVec.extractLsb'_append_eq_of_le (by decide)]
    cases s <;> rfl
  have hsame : Sign.ofBitVec s.toBitVec = s := by cases s <;> rfl
  rw [unpack_eq, hsign, hsame, unpackExponent_packComponents, unpackMantissa_packComponents]

theorem pack_finite (s : Sign) {m n : Nat} (hpos : 0 < m) :
    UnpackedFloat.pack Format.binary64 (.finite s m ((n : Int) - 1074) hpos)
      = if 2046 ≤ n then packComponents Format.binary64 s (-1#11) 0#52
        else if m.log2 = 52 then
          packComponents Format.binary64 s (BitVec.ofNat 11 (n + 1)) (BitVec.ofNat 52 m)
        else packComponents Format.binary64 s 0#11 (BitVec.ofNat 52 m) := by
  have hbiased : ((n : Int) - 1074 + (1023 : Nat) + (52 : Nat)).toNat = n + 1 := by omega
  show (if 2 ^ 11 ≤ ((n : Int) - 1074 + (1023 : Nat) + (52 : Nat)).toNat + 1 then _
    else if m.log2 + 1 = 53 then packComponents Format.binary64 s
      (BitVec.ofNat 11 ((n : Int) - 1074 + (1023 : Nat) + (52 : Nat)).toNat) _ else _) = _
  rw [hbiased]
  by_cases hn : 2046 ≤ n
  · rw [if_pos hn, if_pos (by omega)]
    rfl
  · rw [if_neg hn, if_neg (by omega)]
    by_cases hlog : m.log2 = 52
    · rw [if_pos hlog, if_pos (by omega)]
    · rw [if_neg hlog, if_neg (by omega)]

/-! ## 2. Numbers -/

/-- The fields of a number with all its digits, of which the first is left out. -/
theorem ofFields_normal (s : Sign) {m n : Nat} (hlow : 2 ^ 52 ≤ m) (hhigh : m < 2 ^ 53)
    (hn : n < 2046) :
    ofFields s (BitVec.ofNat 11 (n + 1)) (BitVec.ofNat 52 m) = ofUnits s (m * 2 ^ n) := by
  have hexponent : (BitVec.ofNat 11 (n + 1)).toNat = n + 1 := by
    rw [BitVec.toNat_ofNat, Nat.mod_eq_of_lt (by omega)]
  have hmantissa : 2 ^ 52 + (BitVec.ofNat 52 m).toNat = m := by
    rw [BitVec.toNat_ofNat]
    omega
  rw [ofFields, if_neg, if_neg, hexponent, hmantissa, Nat.add_sub_cancel]
  · intro hnone
    have := hexponent.symm.trans (congrArg BitVec.toNat hnone)
    cases this
  · intro hall
    have hlast : (-1#11).toNat = 2047 := by decide
    have := hexponent.symm.trans (congrArg BitVec.toNat hall)
    omega

theorem ofFields_subnormal (s : Sign) {u : Nat} (h : u < 2 ^ 52) :
    ofFields s 0#11 (BitVec.ofNat 52 u) = ofUnits s u := by
  rw [ofFields, if_neg (by decide), if_pos rfl, BitVec.toNat_ofNat, Nat.mod_eq_of_lt h]

/-- **What can be represented is**, and what is too great becomes infinite.  A number of units on
its grid is packed into 64 bits and comes out as it was, as long as its exponent has a field. -/
theorem unpack_pack_ofUnits (s : Sign) {u : Nat} (h : OnGrid u) :
    UnpackedFloat.unpack Format.binary64 (UnpackedFloat.pack Format.binary64 (ofUnits s u))
      = if grid u < 2046 then ofUnits s u else .infinity s := by
  rcases Nat.eq_zero_or_pos u with rfl | hpos
  · cases s <;> rfl
  have hzero := Nat.ne_of_gt (mantissa_pos hpos)
  have hhigh := mantissa_lt u
  rw [ofUnits_of_pos s hpos, pack_finite, ← ofUnits_of_pos s hpos]
  by_cases hgrid : 2046 ≤ grid u
  · rw [if_pos hgrid, if_neg (Nat.not_lt.mpr hgrid), unpack_packComponents]
    rfl
  · rw [if_neg hgrid, if_pos (Nat.not_le.mp hgrid)]
    by_cases hlog : (u / 2 ^ grid u).log2 = 52
    · have hlow : 2 ^ 52 ≤ u / 2 ^ grid u := by
        rw [← hlog]
        exact Nat.log2_self_le hzero
      rw [if_pos hlog, unpack_packComponents, ofFields_normal s hlow hhigh (by omega),
        Nat.div_mul_cancel h]
    · have hsmall : u < 2 ^ 52 := Nat.lt_of_not_le fun hge =>
        hlog ((Nat.log2_eq_iff hzero).mpr ⟨le_mantissa hge, hhigh⟩)
      rw [if_neg hlog, unpack_packComponents, grid_of_lt (by omega), Nat.pow_zero, Nat.div_one,
        ofFields_subnormal s hsmall]

/-- A number of units that has a representation. -/
inductive IsUnits : UnpackedFloat → Prop
  | intro (s : Sign) (u : Nat) (onGrid : OnGrid u) (fits : grid u < 2046) : IsUnits (ofUnits s u)

/-- What fields can say. -/
theorem ofFields_cases (s : Sign) (e : BitVec 11) (m : BitVec 52) :
    ofFields s e m = .notANumber ∨ (∃ r, ofFields s e m = .infinity r)
      ∨ IsUnits (ofFields s e m) := by
  unfold ofFields
  split
  · split
    · exact .inr (.inl ⟨s, rfl⟩)
    · exact .inl rfl
  · refine .inr (.inr ?_)
    split
    · have hgrid : grid m.toNat = 0 := grid_of_lt (by omega)
      refine ⟨s, _, ?_, by omega⟩
      rw [OnGrid, hgrid]
      exact Nat.one_dvd _
    · next hall _ =>
      have hgrid : grid ((2 ^ 52 + m.toNat) * 2 ^ (e.toNat - 1)) = e.toNat - 1 :=
        grid_mantissa (Nat.le_add_right _ _) (by omega)
      refine ⟨s, _, ?_, ?_⟩
      · rw [OnGrid, hgrid]
        exact Nat.dvd_mul_left _ _
      · have hne : e.toNat ≠ 2047 := fun h => hall (BitVec.eq_of_toNat_eq h)
        have hlt : e.toNat < 2048 := e.isLt
        omega

/-- **What is represented**: no number, an infinite one, or a number of units on its grid. -/
theorem unpack_cases (f : Float.Model) :
    f.unpack = .notANumber ∨ (∃ s, f.unpack = .infinity s) ∨ IsUnits f.unpack := by
  have hfields : f.unpack = ofFields _ _ _ := unpack_eq f.toBits.toBitVec
  rw [hfields]
  exact ofFields_cases ..

end Tombola.Binary
