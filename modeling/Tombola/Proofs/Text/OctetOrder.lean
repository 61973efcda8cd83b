import Mathlib.Data.String.Basic
import Tombola.Text.Utf8
/-!
# The order of octets is the order of code points

A table lists names sorted by the octets of their UTF-8 form, groups in memory are sorted by
code points.  UTF-8 keeps the order, so both come out alike: of two code points the smaller
one has the smaller octets at the first place where they differ, however many there are.

Main statements: `encodeNat_lt`, one code point against another before any rest;
`encode_le_iff`, whole strings; `encode_injective`, different ones have different octets.
-/

namespace Tombola.Utf8

/-! ## 1. One code point -/

theorem toUInt8_lt {a b : Nat} (h : a < b) (hb : b < 256) : a.toUInt8 < b.toUInt8 := by
  rw [UInt8.lt_iff_toNat_lt]
  simp only [Nat.toUInt8, UInt8.toNat_ofNat']
  omega

theorem cons_lt_of_lt {a b : Nat} (h : a < b) (hb : b < 256) (as bs : List UInt8) :
    a.toUInt8 :: as < b.toUInt8 :: bs :=
  List.cons_lt_cons_iff.mpr (Or.inl (toUInt8_lt h hb))

theorem cons_lt_of_le {a b : Nat} (h : a ≤ b) (hb : b < 256) {as bs : List UInt8}
    (ht : a = b → as < bs) : a.toUInt8 :: as < b.toUInt8 :: bs := by
  rcases Nat.lt_or_eq_of_le h with hlt | heq
  · exact cons_lt_of_lt hlt hb as bs
  · rw [heq]
    exact List.cons_lt_cons_iff.mpr (Or.inr ⟨rfl, ht heq⟩)

/-- **The smaller code point has the smaller octets**, whatever follows. -/
theorem encodeNat_lt {m n : Nat} (h : m < n) (hn : n < 0x110000) (as bs : List UInt8) :
    encodeNat m ++ as < encodeNat n ++ bs := by
  unfold encodeNat
  -- With fewer octets the first one is smaller; with as many, the digits to base 64 decide.
  split
  · split
    · exact cons_lt_of_lt h (by omega) _ _
    · split
      · exact cons_lt_of_lt (by omega) (by omega) _ _
      · split
        · exact cons_lt_of_lt (by omega) (by omega) _ _
        · exact cons_lt_of_lt (by omega) (by omega) _ _
  · rw [if_neg (by omega : ¬ n < 0x80)]
    split
    · split
      · refine cons_lt_of_le (by omega) (by omega) fun h1 => ?_
        exact cons_lt_of_lt (by omega) (by omega) _ _
      · split
        · exact cons_lt_of_lt (by omega) (by omega) _ _
        · exact cons_lt_of_lt (by omega) (by omega) _ _
    · rw [if_neg (by omega : ¬ n < 0x800)]
      split
      · split
        · refine cons_lt_of_le (by omega) (by omega) fun h1 => ?_
          refine cons_lt_of_le (by omega) (by omega) fun h2 => ?_
          exact cons_lt_of_lt (by omega) (by omega) _ _
        · exact cons_lt_of_lt (by omega) (by omega) _ _
      · rw [if_neg (by omega : ¬ n < 0x10000)]
        refine cons_lt_of_le (by omega) (by omega) fun h1 => ?_
        refine cons_lt_of_le (by omega) (by omega) fun h2 => ?_
        refine cons_lt_of_le (by omega) (by omega) fun h3 => ?_
        exact cons_lt_of_lt (by omega) (by omega) _ _

theorem encodeNat_ne_nil (n : Nat) : encodeNat n ≠ [] := by
  unfold encodeNat
  split
  · exact List.cons_ne_nil _ _
  · split
    · exact List.cons_ne_nil _ _
    · split <;> exact List.cons_ne_nil _ _

/-! ## 2. Strings -/

theorem encodeChars_lt {cs ds : List Char} (h : cs < ds) : encodeChars cs < encodeChars ds := by
  induction cs generalizing ds with
  | nil =>
    cases ds with
    | nil => exact absurd h (List.not_lt_nil _)
    | cons d ds =>
      obtain ⟨b, bs, hb⟩ := List.exists_cons_of_ne_nil (encodeNat_ne_nil d.toNat)
      simp only [encodeChars, List.flatMap_nil, List.flatMap_cons, hb, List.cons_append]
      exact List.nil_lt_cons _ _
  | cons c cs ih =>
    cases ds with
    | nil => exact absurd h (List.not_lt_nil _)
    | cons d ds =>
      rcases List.cons_lt_cons_iff.mp h with hlt | ⟨rfl, hlt⟩
      · exact encodeNat_lt hlt (CodePoint.toNat_lt d) _ _
      · exact List.append_left_lt (ih hlt)

/-- **Strings are ordered as their octets.**  So a database that sorts names by their octets lists
them by their code points, as sorting strings does. -/
theorem encode_le_iff {a b : String} : encode a ≤ encode b ↔ a ≤ b := by
  have lt_of_lt {a b : String} (h : a < b) : encode a < encode b :=
    encodeChars_lt (String.lt_iff_toList_lt.mp h)
  constructor
  · intro h
    by_contra hn
    exact List.not_lt.mpr h (lt_of_lt (not_le.mp hn))
  · intro h
    rcases h.lt_or_eq with hlt | rfl
    · exact List.le_of_lt (lt_of_lt hlt)
    · exact List.le_refl _

/-- Different strings have different octets. -/
theorem encode_injective {a b : String} (h : encode a = encode b) : a = b := by
  refine le_antisymm (encode_le_iff.mp ?_) (encode_le_iff.mp ?_)
  · rw [h]
    exact List.le_refl _
  · rw [h]
    exact List.le_refl _

end Tombola.Utf8
