import Tombola.Text.Blank
import Tombola.Decimal.Digits
/-!
# Counts

The word after "/n" is a count: ASCII, with blanks around it allowed, an optional sign, and
one to 4300 decimal digits with single underscores between them.

Main statements: `ungroup_some`, what is left without underscores are digits only;
`ofWord?_ascii`, a word beyond ASCII is no count; `ofWord?_eq_some`, a count is the value of
not too many digits; `ofWord?_toString`, a number that is written out is a count.
-/

namespace Tombola.Command.Count

def maxDigits : Nat := 4300

/-- The digits of a run in which single underscores may stand between digits.  `after` tells
whether a digit stands just before. -/
def ungroup (after : Bool) : List Char → Option (List Char)
  | [] => if after then some [] else none
  | c :: cs =>
    if c = '_' then (if after then ungroup false cs else none)
    else if Decimal.isDigit c then (ungroup true cs).map (c :: ·)
    else none

/-- A sign at the front, true for a minus, and the rest. -/
def sign : List Char → Bool × List Char
  | '-' :: cs => (true, cs)
  | '+' :: cs => (false, cs)
  | cs => (false, cs)

/-- The whole number that a word of ASCII stands for. -/
def int? (word : List Char) : Option Int :=
  let (negative, cs) := sign (Text.trim Text.isAsciiBlank word)
  match ungroup false cs with
  | none => none
  | some ds =>
    if maxDigits < ds.length then none
    else
      let n : Int := Decimal.value ds
      some (if negative then -n else n)

def isAscii (word : List Char) : Bool := word.all (·.toNat < 128)

/-- The count that a word stands for: at least one. -/
def ofWord? (word : String) : Option Nat :=
  if isAscii word.toList then
    match int? word.toList with
    | some n => if 1 ≤ n then some n.toNat else none
    | none => none
  else none

theorem ungroup_some {after : Bool} {cs ds : List Char} (h : ungroup after cs = some ds) :
    ∀ c ∈ ds, Decimal.isDigit c = true := by
  induction cs generalizing after ds with
  | nil =>
    unfold ungroup at h
    split at h
    · cases h; simp
    · cases h
  | cons c cs ih =>
    unfold ungroup at h
    split at h
    · split at h
      · exact ih h
      · cases h
    · split at h
      · rename_i hd
        obtain ⟨es, he, rfl⟩ := Option.map_eq_some_iff.mp h
        intro x hx
        rcases List.mem_cons.mp hx with rfl | hx
        · exact hd
        · exact ih he x hx
      · cases h

theorem ofWord?_ascii {word : String} (h : isAscii word.toList = false) : ofWord? word = none := by
  simp [ofWord?, h]

theorem int?_eq_some {word : List Char} {i : Int} (h : int? word = some i) :
    ∃ ds, (∀ c ∈ ds, Decimal.isDigit c = true) ∧ ds.length ≤ maxDigits ∧
      (i = Decimal.value ds ∨ i = -Decimal.value ds) := by
  unfold int? at h
  simp only at h
  split at h
  · cases h
  · rename_i ds hd
    split at h
    · cases h
    · rename_i hlen
      refine ⟨ds, ungroup_some hd, Nat.not_lt.mp hlen, ?_⟩
      obtain rfl := Option.some.inj h
      split
      · exact .inr rfl
      · exact .inl rfl

/-- **A count is the value of not too many digits**, and at least one. -/
theorem ofWord?_eq_some {word : String} {n : Nat} (h : ofWord? word = some n) :
    1 ≤ n ∧ ∃ ds, (∀ c ∈ ds, Decimal.isDigit c = true) ∧ ds.length ≤ maxDigits ∧
      n = Decimal.value ds := by
  unfold ofWord? at h
  split at h
  · split at h
    · rename_i i hi
      split at h
      · rename_i hpos
        obtain rfl := Option.some.inj h
        obtain ⟨ds, hds, hlen, hv⟩ := int?_eq_some hi
        exact ⟨by omega, ds, hds, hlen, by omega⟩
      · cases h
    · cases h
  · cases h

theorem ungroup_digits {after : Bool} {ds : List Char} (h : ∀ c ∈ ds, Decimal.isDigit c = true)
    (hne : after = true ∨ ds ≠ []) : ungroup after ds = some ds := by
  induction ds generalizing after with
  | nil =>
    obtain rfl : after = true := hne.resolve_right (· rfl)
    rfl
  | cons d ds ih =>
    have hd : Decimal.isDigit d = true := h d List.mem_cons_self
    have hsep : d ≠ '_' := by
      rintro rfl
      exact absurd hd (by decide)
    have htail : ungroup true ds = some ds :=
      ih (fun c hc => h c (List.mem_cons_of_mem d hc)) (.inl rfl)
    simp only [ungroup, if_neg hsep, hd, if_true, htail, Option.map_some]

theorem sign_digits {ds : List Char} (h : ∀ c ∈ ds, Decimal.isDigit c = true) :
    sign ds = (false, ds) := by
  unfold sign
  split
  · exact absurd (h '-' List.mem_cons_self) (by decide)
  · exact absurd (h '+' List.mem_cons_self) (by decide)
  · rfl

theorem lt_of_isDigit {c : Char} (h : Decimal.isDigit c = true) :
    c.toNat < 128 ∧ Text.isAsciiBlank c = false := by
  simp only [Decimal.isDigit, Bool.and_eq_true, decide_eq_true_eq, Char.le_def,
    UInt32.le_iff_toNat_le] at h
  have h0 : ('0' : Char).val.toNat = 48 := rfl
  have h9 : ('9' : Char).val.toNat = 57 := rfl
  have hc : c.val.toNat = c.toNat := rfl
  have hspace : c ≠ ' ' := by
    rintro rfl
    exact absurd h.1 (by decide)
  refine ⟨by omega, ?_⟩
  simp only [Text.isAsciiBlank, beq_eq_false_iff_ne.mpr hspace, Bool.false_or,
    Bool.and_eq_false_iff, decide_eq_false_iff_not]
  omega

/-- **A number that is written out is a count**, if it has not too many digits. -/
theorem ofWord?_toString {n : Nat} (hn : 1 ≤ n) (hlt : n < Decimal.tenTo maxDigits) :
    ofWord? (toString n) = some n := by
  have hdigits : ∀ c ∈ Decimal.digits n, Decimal.isDigit c = true := fun c =>
    Decimal.isDigit_of_mem_digits
  have hascii : isAscii (Decimal.digits n) = true :=
    List.all_eq_true.mpr fun c hc => decide_eq_true (lt_of_isDigit (hdigits c hc)).1
  have htrim : Text.trim Text.isAsciiBlank (Decimal.digits n) = Decimal.digits n :=
    Text.trim_eq_self fun c hc => (lt_of_isDigit (hdigits c hc)).2
  have hrun : ungroup false (Decimal.digits n) = some (Decimal.digits n) :=
    ungroup_digits hdigits (.inr (Decimal.digits_ne_nil n))
  have hshort : ¬ maxDigits < (Decimal.digits n).length :=
    Nat.not_lt.mpr ((Decimal.length_digits_le_iff (by decide)).mpr hlt)
  have hint : int? (Decimal.digits n) = some (n : Int) := by
    simp only [int?, htrim, sign_digits hdigits, hrun, if_neg hshort, Decimal.value_digits,
      Bool.false_eq_true, if_false]
  unfold ofWord?
  rw [← Decimal.digits, hascii, hint]
  have h1 : (1 : Int) ≤ n := by omega
  simp only [if_true, if_pos h1, Int.toNat_natCast]

end Tombola.Command.Count
