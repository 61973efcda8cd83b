/-!
# Decimal digits

Whole numbers in decimal notation, and the value of a run of digits.

Main statements: `value_lt`, a run of `n` digits stands for a number below the `n`-th power of ten;
`value_digits`, the digits of a number stand for it.
-/

namespace Tombola.Decimal

/-! ## 1. Powers -/

def tenTo (n : Nat) : Nat := Nat.pow 10 n

def twoTo (n : Nat) : Nat := Nat.pow 2 n

@[simp] theorem tenTo_zero : tenTo 0 = 1 := rfl

theorem tenTo_succ (n : Nat) : tenTo (n + 1) = tenTo n * 10 := rfl

/-! ## 2. Digits -/

/-- Whether a character is one of the ten digits of ASCII. -/
def isDigit (c : Char) : Bool := '0' ≤ c && c ≤ '9'

def digitValue (c : Char) : Nat := c.toNat - 48

/-- The number that a run of digits stands for, behind digits worth `acc`. -/
def valueFrom (acc : Nat) (ds : List Char) : Nat :=
  ds.foldl (fun v c => 10 * v + digitValue c) acc

/-- The number that a run of digits stands for. -/
def value (ds : List Char) : Nat := valueFrom 0 ds

def digits (n : Nat) : List Char := (toString n).toList

theorem valueFrom_eq (acc : Nat) (ds : List Char) :
    valueFrom acc ds = acc * tenTo ds.length + value ds := by
  induction ds generalizing acc with
  | nil => simp [valueFrom, value]
  | cons d ds ih =>
    have h1 : valueFrom acc (d :: ds) = valueFrom (10 * acc + digitValue d) ds := rfl
    have h2 : value (d :: ds) = valueFrom (10 * 0 + digitValue d) ds := rfl
    rw [h1, h2, ih, ih (10 * 0 + digitValue d), List.length_cons, tenTo_succ, Nat.add_mul,
      Nat.mul_zero, Nat.zero_add, Nat.mul_comm (tenTo ds.length) 10, ← Nat.mul_assoc,
      Nat.mul_comm acc 10, Nat.add_assoc]

theorem digitValue_lt {c : Char} (h : isDigit c = true) : digitValue c < 10 := by
  simp only [isDigit, Bool.and_eq_true, decide_eq_true_eq, Char.le_def,
    UInt32.le_iff_toNat_le] at h
  have h9 : ('9' : Char).val.toNat = 57 := rfl
  have hc : c.val.toNat = c.toNat := rfl
  unfold digitValue
  omega

/-- A run of `n` digits stands for a number below the `n`-th power of ten. -/
theorem value_lt {ds : List Char} (h : ∀ c ∈ ds, isDigit c = true) :
    value ds < tenTo ds.length := by
  induction ds with
  | nil => simp [value, valueFrom]
  | cons d ds ih =>
    have hd : digitValue d < 10 := digitValue_lt (h d (by simp))
    have := ih fun c hc => h c (by simp [hc])
    rw [show value (d :: ds) = valueFrom (digitValue d) ds by simp [value, valueFrom],
      valueFrom_eq, List.length_cons, tenTo_succ]
    have : digitValue d * tenTo ds.length ≤ 9 * tenTo ds.length :=
      Nat.mul_le_mul_right _ (by omega)
    omega

/-! ## 3. Numbers written out -/

theorem digits_eq_toDigits (n : Nat) : digits n = Nat.toDigits 10 n :=
  Nat.toList_repr

theorem digits_ne_nil (n : Nat) : digits n ≠ [] := by
  rw [digits_eq_toDigits]
  exact Nat.toDigits_ne_nil

theorem isDigit_of_mem_digits {n : Nat} {c : Char} (h : c ∈ digits n) : isDigit c = true := by
  rw [digits_eq_toDigits] at h
  exact Nat.isDigit_of_mem_toDigits (by decide) (by decide) h

theorem length_digits_le_iff {n k : Nat} (h : 0 < k) : (digits n).length ≤ k ↔ n < tenTo k := by
  rw [digits_eq_toDigits]
  exact Nat.length_toDigits_le_iff (by decide) h

/-- **The digits of a number stand for it.** -/
theorem value_digits (n : Nat) : value (digits n) = n := by
  rw [digits_eq_toDigits]
  exact Nat.ofDigitChars_ten_toDigits

end Tombola.Decimal
