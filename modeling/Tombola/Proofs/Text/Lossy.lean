import Tombola.Text.Utf8
/-!
# What lossy reading comes to

The lossy decoder reads whatever octets there are.  It reads the octets of characters as these
characters, and whatever else stands between them it does not touch them: the first octet of a
character never continues what was begun before it.  So with single octets put in between there are
no more readings than characters and single octets together.

Main statements:

* `readings_char`: the octets of a character are read as this character;
* `decodeLossy_encodeChars`: written characters are read back;
* `length_readings_le`, `length_decodeLossy_le`: what is read is no longer than what was written.
-/

namespace Tombola.Utf8

variable (sur : Bool)

/-! ## 1. Characters -/

theorem toNat_toUInt8 {n : Nat} (h : n < 256) : n.toUInt8.toNat = n := by
  simp only [Nat.toUInt8, UInt8.toNat_ofNat']
  omega

/-- An octet that may come next carries six bits. -/
theorem step_inside {q : Pending} {b : Nat} (h : q.low ≤ b ∧ b ≤ q.high) :
    step sur (some q) b =
      if q.more = 0 then ([CodePoint.ofNat? (q.value * 64 + (b - 0x80))], none)
      else ([], some ⟨0x80, 0xBF, q.more - 1, q.value * 64 + (b - 0x80)⟩) := by
  simp only [step, if_pos h]

/-- An octet that may not come next is looked at again. -/
theorem step_outside {q : Pending} {b : Nat} (h : ¬ (q.low ≤ b ∧ b ≤ q.high)) :
    step sur (some q) b = (none :: (first sur b).1, (first sur b).2) := by
  simp only [step, if_neg h]

theorem readings_last {low high v b : Nat} {bs : List UInt8} (hl : low ≤ b) (hh : b ≤ high)
    (hb : b < 256) :
    readings sur (some ⟨low, high, 0, v⟩) (b.toUInt8 :: bs) =
      CodePoint.ofNat? (v * 64 + (b - 0x80)) :: readings sur none bs := by
  rw [readings_cons, toNat_toUInt8 hb, step_inside sur ⟨hl, hh⟩]
  rfl

theorem readings_inner {low high more v b : Nat} {bs : List UInt8} (hl : low ≤ b) (hh : b ≤ high)
    (hb : b < 256) :
    readings sur (some ⟨low, high, more + 1, v⟩) (b.toUInt8 :: bs) =
      readings sur (some ⟨0x80, 0xBF, more, v * 64 + (b - 0x80)⟩) bs := by
  rw [readings_cons, toNat_toUInt8 hb, step_inside sur ⟨hl, hh⟩]
  rfl

/-- What the first octets begin, by the number of octets. -/
theorem first_two {n : Nat} (h : 0x80 ≤ n) (h' : n < 0x800) :
    first sur (0xC0 + n / 64) = ([], some ⟨0x80, 0xBF, 0, n / 64⟩) := by
  unfold first
  rw [if_neg (by omega), if_neg (by omega), if_pos (by omega), Nat.add_sub_cancel_left]

theorem first_three {n : Nat} (h : 0x800 ≤ n) (h' : n < 0x10000)
    (hvalid : n < 0xD800 ∨ 0xDFFF < n) :
    ∃ low high, first sur (0xE0 + n / 4096) = ([], some ⟨low, high, 1, n / 4096⟩) ∧
      low ≤ 0x80 + n / 64 % 64 ∧ 0x80 + n / 64 % 64 ≤ high := by
  unfold first
  rw [if_neg (by omega), if_neg (by omega), if_neg (by omega)]
  split
  · exact ⟨0xA0, 0xBF, by rw [show n / 4096 = 0 by omega], by omega, by omega⟩
  · split
    · refine ⟨0x80, _, by rw [show n / 4096 = 0xD by omega], by omega, ?_⟩
      cases sur with
      | false =>
        simp only [Bool.false_eq_true, if_false]
        omega
      | true =>
        simp only [if_true]
        omega
    · rw [if_pos (by omega)]
      exact ⟨0x80, 0xBF, by rw [Nat.add_sub_cancel_left], by omega, by omega⟩

theorem first_four {n : Nat} (h : 0x10000 ≤ n) (h' : n < 0x110000) :
    ∃ low high, first sur (0xF0 + n / 262144) = ([], some ⟨low, high, 2, n / 262144⟩) ∧
      low ≤ 0x80 + n / 4096 % 64 ∧ 0x80 + n / 4096 % 64 ≤ high := by
  unfold first
  rw [if_neg (by omega), if_neg (by omega), if_neg (by omega), if_neg (by omega),
    if_neg (by omega), if_neg (by omega)]
  split
  · exact ⟨0x90, 0xBF, by rw [show n / 262144 = 0 by omega], by omega, by omega⟩
  · split
    · exact ⟨0x80, 0xBF, by rw [Nat.add_sub_cancel_left], by omega, by omega⟩
    · rw [if_pos (by omega)]
      exact ⟨0x80, 0x8F, by rw [show n / 262144 = 4 by omega], by omega, by omega⟩

/-- **A character is read as itself,** whatever follows it. -/
theorem readings_char (c : Char) (rest : List UInt8) :
    readings sur none (encodeNat c.toNat ++ rest) = some (.char c) :: readings sur none rest := by
  have hvalid : c.toNat < 0xD800 ∨ 0xDFFF < c.toNat ∧ c.toNat < 0x110000 := c.valid
  have hc : CodePoint.ofNat? c.toNat = some (.char c) := CodePoint.ofNat?_toNat c
  generalize c.toNat = n at *
  unfold encodeNat
  split
  · rename_i h
    rw [List.singleton_append, readings_cons, toNat_toUInt8 (by omega), step, first, if_pos h, hc]
    rfl
  · split
    · rw [List.cons_append, readings_cons, toNat_toUInt8 (by omega), step,
        first_two sur (by omega) (by omega), List.nil_append, List.singleton_append,
        readings_last sur (by omega) (by omega) (by omega),
        show n / 64 * 64 + (0x80 + n % 64 - 0x80) = n by omega, hc]
    · split
      · obtain ⟨low, high, hfirst, hlow, hhigh⟩ :=
          first_three sur (n := n) (by omega) (by omega) (by omega)
        rw [List.cons_append, readings_cons, toNat_toUInt8 (by omega), step, hfirst,
          List.nil_append, List.cons_append, List.singleton_append,
          readings_inner sur hlow hhigh (by omega),
          readings_last sur (by omega) (by omega) (by omega),
          show (n / 4096 * 64 + (0x80 + n / 64 % 64 - 0x80)) * 64 + (0x80 + n % 64 - 0x80) = n by
            omega, hc]
      · obtain ⟨low, high, hfirst, hlow, hhigh⟩ :=
          first_four sur (n := n) (by omega) (by omega)
        rw [List.cons_append, readings_cons, toNat_toUInt8 (by omega), step, hfirst,
          List.nil_append, List.cons_append, List.cons_append, List.singleton_append,
          readings_inner sur hlow hhigh (by omega),
          readings_inner sur (by omega) (by omega) (by omega),
          readings_last sur (by omega) (by omega) (by omega),
          show ((n / 262144 * 64 + (0x80 + n / 4096 % 64 - 0x80)) * 64
            + (0x80 + n / 64 % 64 - 0x80)) * 64 + (0x80 + n % 64 - 0x80) = n by omega, hc]

theorem readings_encodeChars (cs : List Char) (rest : List UInt8) :
    readings sur none (encodeChars cs ++ rest)
      = cs.map (fun c => some (.char c)) ++ readings sur none rest := by
  induction cs with
  | nil => rfl
  | cons c cs ih =>
    rw [encodeChars, List.flatMap_cons, List.append_assoc, readings_char, ← encodeChars, ih]
    rfl

/-- **Written characters are read back,** by induction on the text: a character is read as itself
whatever follows it, so each one can be taken off the front. -/
theorem decodeLossy_encodeChars (cs : List Char) : decodeLossy (encodeChars cs) = cs := by
  have h := readings_encodeChars false cs []
  rw [List.append_nil] at h
  rw [decodeLossy, h, readings, List.append_nil, List.map_map]
  exact List.map_id cs

/-! ## 2. Length -/

/-- What a text is written of: characters, and octets by themselves. -/
abbrev Mark := Char ⊕ UInt8

def Mark.octets : Mark → List UInt8
  | .inl c => encodeNat c.toNat
  | .inr b => [b]

/-- How many readings a sequence that is begun and not finished may still come to. -/
def owed : Option Pending → Nat
  | none => 0
  | some _ => 1

/-- Whether only an octet that continues a sequence may come next. -/
def Continuing (p : Option Pending) : Prop := ∀ q ∈ p, 0x80 ≤ q.low ∧ q.high ≤ 0xBF

theorem continuing_none : Continuing none := by
  simp [Continuing]

theorem first_owed (b : Nat) : (first sur b).1.length + owed (first sur b).2 = 1 := by
  unfold first
  repeat' split
  all_goals rfl

theorem first_continuing (b : Nat) : Continuing (first sur b).2 := by
  unfold first
  repeat' split
  all_goals simp [Continuing]

theorem step_owed (p : Option Pending) (b : Nat) :
    (step sur p b).1.length + owed (step sur p b).2 ≤ owed p + 1 := by
  cases p with
  | none => exact Nat.le_of_eq (first_owed sur b)
  | some q =>
    by_cases hb : q.low ≤ b ∧ b ≤ q.high
    · rw [step_inside sur hb]
      split
      · exact Nat.le_succ 1
      · exact Nat.le_succ 1
    · have h := first_owed sur b
      rw [step_outside sur hb, List.length_cons]
      simp only [owed] at h ⊢
      omega

theorem step_continuing (p : Option Pending) (b : Nat) : Continuing (step sur p b).2 := by
  cases p with
  | none => exact first_continuing sur b
  | some q =>
    by_cases hb : q.low ≤ b ∧ b ≤ q.high
    · rw [step_inside sur hb]
      split
      · exact continuing_none
      · simp [Continuing]
    · rw [step_outside sur hb]
      exact first_continuing sur b

/-- The first octet of a character continues nothing. -/
theorem encodeNat_eq_cons {n : Nat} (h : n < 0x110000) :
    ∃ b bs, encodeNat n = b :: bs ∧ ¬ (0x80 ≤ b.toNat ∧ b.toNat ≤ 0xBF) := by
  unfold encodeNat
  split
  · exact ⟨_, _, rfl, by rw [toNat_toUInt8 (by omega)]; omega⟩
  · split
    · exact ⟨_, _, rfl, by rw [toNat_toUInt8 (by omega)]; omega⟩
    · split
      · exact ⟨_, _, rfl, by rw [toNat_toUInt8 (by omega)]; omega⟩
      · exact ⟨_, _, rfl, by rw [toNat_toUInt8 (by omega)]; omega⟩

/-- A character breaks off what was begun before it. -/
theorem readings_some_char {q : Pending} (hq : Continuing (some q)) (c : Char) (rest : List UInt8) :
    readings sur (some q) (encodeNat c.toNat ++ rest)
      = none :: some (.char c) :: readings sur none rest := by
  rw [← readings_char]
  obtain ⟨b, bs, hb, hfirst⟩ := encodeNat_eq_cons (CodePoint.toNat_lt c)
  obtain ⟨hlow, hhigh⟩ := hq q rfl
  rw [hb, List.cons_append, readings_cons, readings_cons, step_outside sur (by omega)]
  rfl

/-- **There are at most as many readings as marks,** and one for what was begun before.  An octet
that breaks a sequence off adds a second reading, but the sequence had been owed one since it
began. -/
theorem length_readings_le (ms : List Mark) (p : Option Pending) (hp : Continuing p) :
    (readings sur p (ms.flatMap Mark.octets)).length ≤ owed p + ms.length := by
  induction ms generalizing p with
  | nil => cases p <;> simp [readings, owed]
  | cons m ms ih =>
    rw [List.flatMap_cons]
    cases m with
    | inl c =>
      have hrest := ih none continuing_none
      simp only [owed, Nat.zero_add] at hrest
      cases p with
      | none =>
        rw [Mark.octets, readings_char]
        simp only [List.length_cons, owed]
        omega
      | some q =>
        rw [Mark.octets, readings_some_char sur hp]
        simp only [List.length_cons, owed]
        omega
    | inr b =>
      have hstep := step_owed sur p b.toNat
      have hrest := ih _ (step_continuing sur p b.toNat)
      rw [Mark.octets, List.singleton_append, readings_cons, List.length_append, List.length_cons]
      omega

theorem length_decodeLossy_le (ms : List Mark) :
    (decodeLossy (ms.flatMap Mark.octets)).length ≤ ms.length := by
  have h := length_readings_le false ms none continuing_none
  rw [decodeLossy, List.length_map]
  simpa only [owed, Nat.zero_add] using h

end Tombola.Utf8
