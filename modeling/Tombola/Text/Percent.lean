import Tombola.Text.Utf8
import Tombola.Json.Reader
/-!
# Percent encoding

An octet can be written as a percent sign and two hexadecimal digits.  Reading is done on
each run of ASCII characters by itself: its octets are decoded as UTF-8 with U+FFFD for what
is malformed.  A percent sign without two digits behind it stands for itself.

Main statement: `octets_of_plain`, text without percent signs is read as it stands.
-/

namespace Tombola.Percent

/-! ## 1. Reading -/

/-- The octets of a run of ASCII characters. -/
def octets : List Char → List UInt8
  | '%' :: a :: b :: rest =>
    match Json.hexValue? (.char a), Json.hexValue? (.char b) with
    | some x, some y => (x * 16 + y).toUInt8 :: octets rest
    | _, _ => '%'.toNat.toUInt8 :: octets (a :: b :: rest)
  | c :: rest => c.toNat.toUInt8 :: octets rest
  | [] => []

/-- Reads characters; `run` is the ASCII run just before them, the last character first. -/
def decodeFrom (run : List Char) : List Char → List Char
  | [] => Utf8.decodeLossy (octets run.reverse)
  | c :: cs =>
    if c.toNat < 128 then decodeFrom (c :: run) cs
    else Utf8.decodeLossy (octets run.reverse) ++ c :: decodeFrom [] cs

/-- The characters that are written in percent encoding. -/
def decode (cs : List Char) : List Char := decodeFrom [] cs

/-- Text without percent signs is read as it stands. -/
theorem octets_of_plain {cs : List Char} (h : '%' ∉ cs) :
    octets cs = cs.map fun c => c.toNat.toUInt8 := by
  induction cs with
  | nil => rfl
  | cons c cs ih =>
    have hc : c ≠ '%' := fun e => h (by simp [e])
    have := ih fun hm => h (by simp [hm])
    unfold octets
    split
    · rename_i heq
      exact absurd (List.cons.inj heq).1 hc
    · rename_i heq
      obtain ⟨rfl, rfl⟩ := List.cons.inj heq
      simp [this]
    · rename_i heq
      cases heq

/-! ## 2. Writing -/

/-- The upper-case hexadecimal digit of a number below sixteen. -/
def capitalHexDigit (n : Nat) : Char :=
  if n < 10 then Char.ofNat (0x30 + n) else Char.ofNat (0x41 + (n - 10))

def octetEscape (b : UInt8) : List Char :=
  ['%', capitalHexDigit (b.toNat / 16), capitalHexDigit (b.toNat % 16)]

/-- A character in percent encoding. -/
def charEscape (c : Char) : List Char := (Utf8.encodeNat c.toNat).flatMap octetEscape

/-- Writes the characters outside `safe` in percent encoding. -/
def encode (safe : Char → Bool) (cs : List Char) : List Char :=
  cs.flatMap fun c => if safe c then [c] else charEscape c

end Tombola.Percent
