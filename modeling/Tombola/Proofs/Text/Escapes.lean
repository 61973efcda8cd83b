import Tombola.Text.Percent
import Tombola.Proofs.Text.Lossy
/-!
# What is left of a text that is percent encoded and read again

Where the percent sign itself is safe, percent encoding keeps the escapes that are there, so what
is read of the encoded text is not always what was written: each escape stands for one octet.  The
octets that are read are those of the *marks* of the text (`marks`), an octet for each escape and
a character for each other character.  An escape is one mark and three characters, and what is read
is no longer than the marks, so nothing makes up for an escape.

Main statements:

* `octets_encode`: the octets of an encoded text;
* `length_decode_encode_le`: what is read of it is no longer than the text;
* `decode_encode_eq_iff`: the texts that are read back.
-/

namespace Tombola.Percent

open Utf8 (Mark)

/-! ## 1. Escapes -/

/-- Whether a character is a hexadecimal digit. -/
def IsHex (c : Char) : Prop := (Json.hexValue? (.char c)).isSome = true

instance (c : Char) : Decidable (IsHex c) := inferInstanceAs (Decidable (_ = true))

/-- Whether a text begins with an escape: a percent sign and two hexadecimal digits behind it. -/
def BeginsEscaped (cs : List Char) : Prop :=
  ∃ x y rest, IsHex x ∧ IsHex y ∧ cs = '%' :: x :: y :: rest

/-- Whether there is an escape in a text. -/
def Escaped (cs : List Char) : Prop := ∃ x y, IsHex x ∧ IsHex y ∧ ['%', x, y] <:+: cs

theorem escaped_cons_iff {c : Char} {cs : List Char} :
    Escaped (c :: cs) ↔ BeginsEscaped (c :: cs) ∨ Escaped cs := by
  simp only [Escaped, List.infix_cons_iff]
  constructor
  · rintro ⟨x, y, hx, hy, ⟨rest, hrest⟩ | hinfix⟩
    · exact .inl ⟨x, y, rest, hx, hy, hrest.symm⟩
    · exact .inr ⟨x, y, hx, hy, hinfix⟩
  · rintro (⟨x, y, rest, hx, hy, hrest⟩ | ⟨x, y, hx, hy, hinfix⟩)
    · exact ⟨x, y, hx, hy, .inl ⟨rest, hrest.symm⟩⟩
    · exact ⟨x, y, hx, hy, .inr hinfix⟩

theorem not_escaped_nil : ¬ Escaped [] := by
  rintro ⟨x, y, -, -, hinfix⟩
  cases List.infix_nil.mp hinfix

theorem octets_escape {x y : Char} {m n : Nat} (hx : Json.hexValue? (.char x) = some m)
    (hy : Json.hexValue? (.char y) = some n) (rest : List Char) :
    octets ('%' :: x :: y :: rest) = (m * 16 + n).toUInt8 :: octets rest := by
  rw [octets, hx, hy]

theorem octets_plain {c : Char} {cs : List Char} (h : ¬ BeginsEscaped (c :: cs)) :
    octets (c :: cs) = c.toNat.toUInt8 :: octets cs := by
  rw [octets.eq_def]
  split
  · rename_i x y rest heq
    obtain ⟨rfl, rfl⟩ := List.cons.inj heq
    split
    · rename_i m n hx hy
      exact absurd ⟨x, y, rest, by simp [IsHex, hx], by simp [IsHex, hy], rfl⟩ h
    · rfl
  · rename_i heq
    obtain ⟨rfl, rfl⟩ := List.cons.inj heq
    rfl
  · rename_i heq
    cases heq

/-- The marks of a text: an octet for each escape, and every other character. -/
def marks : List Char → List Mark
  | '%' :: x :: y :: rest =>
    match Json.hexValue? (.char x), Json.hexValue? (.char y) with
    | some m, some n => .inr (m * 16 + n).toUInt8 :: marks rest
    | _, _ => .inl '%' :: marks (x :: y :: rest)
  | c :: rest => .inl c :: marks rest
  | [] => []

theorem marks_escape {x y : Char} {m n : Nat} (hx : Json.hexValue? (.char x) = some m)
    (hy : Json.hexValue? (.char y) = some n) (rest : List Char) :
    marks ('%' :: x :: y :: rest) = .inr (m * 16 + n).toUInt8 :: marks rest := by
  rw [marks, hx, hy]

theorem marks_plain {c : Char} {cs : List Char} (h : ¬ BeginsEscaped (c :: cs)) :
    marks (c :: cs) = .inl c :: marks cs := by
  rw [marks.eq_def]
  split
  · rename_i x y rest heq
    obtain ⟨rfl, rfl⟩ := List.cons.inj heq
    split
    · rename_i m n hx hy
      exact absurd ⟨x, y, rest, by simp [IsHex, hx], by simp [IsHex, hy], rfl⟩ h
    · rfl
  · rename_i heq
    obtain ⟨rfl, rfl⟩ := List.cons.inj heq
    rfl
  · rename_i heq
    cases heq

/-- A text is empty, or an escape or another character stands in front. -/
@[elab_as_elim]
theorem escape_induction {motive : List Char → Prop} (nil : motive [])
    (escape : ∀ x y m n rest, Json.hexValue? (.char x) = some m →
      Json.hexValue? (.char y) = some n → motive rest → motive ('%' :: x :: y :: rest))
    (plain : ∀ c rest, ¬ BeginsEscaped (c :: rest) → motive rest → motive (c :: rest))
    (cs : List Char) : motive cs := by
  induction cs using octets.induct with
  | case1 x y rest m n hy hx ih => exact escape x y m n rest hx hy ih
  | case2 x y rest hno ih =>
    refine plain '%' _ ?_ ih
    rintro ⟨x', y', rest', hx, hy, heq⟩
    obtain ⟨m, hm⟩ := Option.isSome_iff_exists.mp hx
    obtain ⟨n, hn⟩ := Option.isSome_iff_exists.mp hy
    cases heq
    exact hno m n hm hn
  | case3 c rest hno ih =>
    refine plain c rest ?_ ih
    rintro ⟨x, y, rest', -, -, heq⟩
    obtain ⟨hc, hrest⟩ := List.cons.inj heq
    exact hno x y rest' hc hrest
  | case4 => exact nil

theorem length_marks_le (cs : List Char) : (marks cs).length ≤ cs.length := by
  induction cs using escape_induction with
  | nil => exact Nat.le_refl 0
  | escape x y m n rest hx hy ih =>
    rw [marks_escape hx hy]
    simp only [List.length_cons]
    omega
  | plain c rest hplain ih =>
    rw [marks_plain hplain]
    simpa using ih

theorem length_marks_lt {cs : List Char} (h : Escaped cs) : (marks cs).length < cs.length := by
  induction cs using escape_induction with
  | nil => exact absurd h not_escaped_nil
  | escape x y m n rest hx hy ih =>
    have hrest := length_marks_le rest
    rw [marks_escape hx hy]
    simp only [List.length_cons]
    omega
  | plain c rest hplain ih =>
    rw [marks_plain hplain]
    simpa using ih ((escaped_cons_iff.mp h).resolve_left hplain)

theorem marks_of_not_escaped {cs : List Char} (h : ¬ Escaped cs) : marks cs = cs.map .inl := by
  induction cs with
  | nil => rfl
  | cons c cs ih =>
    rw [escaped_cons_iff, not_or] at h
    rw [marks_plain h.1, ih h.2, List.map_cons]

/-! ## 2. Encoded texts -/

/-- Whether encoding keeps escapes, and leaves nothing but ASCII. -/
structure KeepsEscapes (safe : Char → Bool) : Prop where
  percent : safe '%' = true
  hex : ∀ {c}, IsHex c → safe c = true
  ascii : ∀ {c}, safe c = true → c.toNat < 128

variable {safe : Char → Bool}

theorem encode_cons (c : Char) (cs : List Char) :
    encode safe (c :: cs) = (if safe c then [c] else charEscape c) ++ encode safe cs :=
  List.flatMap_cons

theorem encode_cons_of_safe {c : Char} (h : safe c = true) (cs : List Char) :
    encode safe (c :: cs) = c :: encode safe cs := by
  rw [encode_cons, if_pos h, List.singleton_append]

theorem hexValue?_capitalHexDigit :
    ∀ d < 16, Json.hexValue? (.char (capitalHexDigit d)) = some d := by decide

theorem octets_octetEscape (b : UInt8) (rest : List Char) :
    octets (octetEscape b ++ rest) = b :: octets rest := by
  have hb : b.toNat < 256 := b.toNat_lt
  have hhigh := hexValue?_capitalHexDigit (b.toNat / 16) (by omega)
  have hlow := hexValue?_capitalHexDigit (b.toNat % 16) (by omega)
  have hvalue : (b.toNat / 16 * 16 + b.toNat % 16).toUInt8 = b := by
    rw [Nat.mul_comm, Nat.div_add_mod]
    exact UInt8.ofNat_toNat
  rw [octetEscape, List.cons_append, List.cons_append, List.cons_append, List.nil_append,
    octets_escape hhigh hlow, hvalue]

theorem octets_flatMap_octetEscape (bs : List UInt8) (rest : List Char) :
    octets (bs.flatMap octetEscape ++ rest) = bs ++ octets rest := by
  induction bs with
  | nil => rfl
  | cons b bs ih =>
    rw [List.flatMap_cons, List.append_assoc, octets_octetEscape, ih, List.cons_append]

theorem charEscape_eq_cons (c : Char) : ∃ rest, charEscape c = '%' :: rest := by
  obtain ⟨b, bs, hb, -⟩ := Utf8.encodeNat_eq_cons (CodePoint.toNat_lt c)
  exact ⟨_, by rw [charEscape, hb, List.flatMap_cons]; rfl⟩

/-- A hexadecimal digit in front of an encoded text stood in front of the text. -/
theorem eq_cons_of_encode {x : Char} {cs ds : List Char} (hx : IsHex x)
    (h : encode safe cs = x :: ds) : ∃ rest, cs = x :: rest ∧ encode safe rest = ds := by
  cases cs with
  | nil => cases h
  | cons c cs =>
    cases hc : safe c with
    | true =>
      rw [encode_cons_of_safe hc] at h
      obtain ⟨rfl, rfl⟩ := List.cons.inj h
      exact ⟨cs, rfl, rfl⟩
    | false =>
      obtain ⟨rest, hrest⟩ := charEscape_eq_cons c
      rw [encode_cons, hc, hrest] at h
      obtain ⟨rfl, -⟩ := List.cons.inj h
      exact absurd hx (by decide)

/-- Encoding makes no escape of the characters that it leaves alone. -/
theorem not_beginsEscaped_encode {c : Char} {cs : List Char} (h : ¬ BeginsEscaped (c :: cs)) :
    ¬ BeginsEscaped (c :: encode safe cs) := by
  rintro ⟨x, y, rest, hx, hy, heq⟩
  obtain ⟨rfl, hcs⟩ := List.cons.inj heq
  obtain ⟨tail, rfl, htail⟩ := eq_cons_of_encode hx hcs
  obtain ⟨tail, rfl, -⟩ := eq_cons_of_encode hy htail
  exact h ⟨x, y, tail, hx, hy, rfl⟩

/-- **The octets of an encoded text** are those of its marks. -/
theorem octets_encode (hsafe : KeepsEscapes safe) (cs : List Char) :
    octets (encode safe cs) = (marks cs).flatMap Mark.octets := by
  induction cs using escape_induction with
  | nil => rfl
  | escape x y m n rest hx hy ih =>
    have hx' : safe x = true := hsafe.hex (by simp [IsHex, hx])
    have hy' : safe y = true := hsafe.hex (by simp [IsHex, hy])
    rw [encode_cons_of_safe hsafe.percent, encode_cons_of_safe hx', encode_cons_of_safe hy',
      octets_escape hx hy, marks_escape hx hy, List.flatMap_cons, ih]
    rfl
  | plain c rest hplain ih =>
    rw [marks_plain hplain, List.flatMap_cons, Mark.octets]
    cases hc : safe c with
    | true =>
      have hone : Utf8.encodeNat c.toNat = [c.toNat.toUInt8] := if_pos (hsafe.ascii hc)
      rw [encode_cons_of_safe hc, octets_plain (not_beginsEscaped_encode hplain), ih, hone,
        List.singleton_append]
    | false =>
      rw [encode_cons, hc, if_neg Bool.false_ne_true, charEscape, octets_flatMap_octetEscape, ih]

/-! ## 3. What is read -/

theorem toNat_capitalHexDigit_lt : ∀ d < 16, (capitalHexDigit d).toNat < 128 := by decide

theorem charEscape_ascii {c d : Char} (h : d ∈ charEscape c) : d.toNat < 128 := by
  obtain ⟨b, -, hd⟩ := List.mem_flatMap.mp h
  have hb : b.toNat < 256 := b.toNat_lt
  simp only [octetEscape, List.mem_cons, List.not_mem_nil, or_false] at hd
  rcases hd with rfl | rfl | rfl
  · decide
  · exact toNat_capitalHexDigit_lt _ (by omega)
  · exact toNat_capitalHexDigit_lt _ (by omega)

theorem encode_ascii (hsafe : KeepsEscapes safe) {cs : List Char} {d : Char}
    (h : d ∈ encode safe cs) : d.toNat < 128 := by
  obtain ⟨c, -, hd⟩ := List.mem_flatMap.mp h
  split at hd
  · rename_i hc
    rw [List.mem_singleton.mp hd]
    exact hsafe.ascii hc
  · exact charEscape_ascii hd

theorem decodeFrom_of_ascii {cs : List Char} (h : ∀ c ∈ cs, c.toNat < 128) (run : List Char) :
    decodeFrom run cs = Utf8.decodeLossy (octets (run.reverse ++ cs)) := by
  induction cs generalizing run with
  | nil => rw [decodeFrom, List.append_nil]
  | cons c cs ih =>
    rw [decodeFrom, if_pos (h c List.mem_cons_self),
      ih (fun d hd => h d (List.mem_cons_of_mem c hd)), List.reverse_cons, List.append_assoc,
      List.singleton_append]

/-- **What is read of an encoded text,** mark by mark. -/
theorem decode_encode (hsafe : KeepsEscapes safe) (cs : List Char) :
    decode (encode safe cs) = Utf8.decodeLossy ((marks cs).flatMap Mark.octets) := by
  rw [decode, decodeFrom_of_ascii (fun _ => encode_ascii hsafe), List.reverse_nil, List.nil_append,
    octets_encode hsafe]

theorem length_decode_encode_le (hsafe : KeepsEscapes safe) (cs : List Char) :
    (decode (encode safe cs)).length ≤ cs.length := by
  rw [decode_encode hsafe]
  exact Nat.le_trans (Utf8.length_decodeLossy_le _) (length_marks_le cs)

/-- **The texts that are read back** are those without an escape.  One that has an escape gets
shorter, since the three characters of the escape are read as one octet. -/
theorem decode_encode_eq_iff (hsafe : KeepsEscapes safe) {cs : List Char} :
    decode (encode safe cs) = cs ↔ ¬ Escaped cs := by
  rw [decode_encode hsafe]
  constructor
  · intro h hescaped
    have hmarks := length_marks_lt hescaped
    have hread := Utf8.length_decodeLossy_le (marks cs)
    rw [h] at hread
    omega
  · intro h
    rw [marks_of_not_escaped h, List.flatMap_map]
    exact Utf8.decodeLossy_encodeChars cs

end Tombola.Percent
