import Tombola.Text.Blank
/-!
# Decimal digits of all scripts

Many scripts have ten digits of their own, and a number may be written in any of them.  The
ten digits of a script follow each other, so the table lists the zeros.

Main statement: `plain_of_ascii`, a text in ASCII is its own plain form.
-/

namespace Tombola.Text

/-- The zeros beyond ASCII, in order. -/
def zeros : Array Nat := #[
  0x660, 0x6F0, 0x7C0, 0x966, 0x9E6, 0xA66, 0xAE6, 0xB66, 0xBE6, 0xC66, 0xCE6, 0xD66, 0xDE6,
  0xE50, 0xED0, 0xF20, 0x1040, 0x1090, 0x17E0, 0x1810, 0x1946, 0x19D0, 0x1A80, 0x1A90, 0x1B50,
  0x1BB0, 0x1C40, 0x1C50, 0xA620, 0xA8D0, 0xA900, 0xA9D0, 0xA9F0, 0xAA50, 0xABF0, 0xFF10,
  0x104A0, 0x10D30, 0x11066, 0x110F0, 0x11136, 0x111D0, 0x112F0, 0x11450, 0x114D0, 0x11650,
  0x116C0, 0x11730, 0x118E0, 0x11950, 0x11C50, 0x11D50, 0x11DA0, 0x16A60, 0x16AC0, 0x16B50,
  0x1D7CE, 0x1D7D8, 0x1D7E2, 0x1D7EC, 0x1D7F6, 0x1E140, 0x1E2F0, 0x1E950, 0x1FBF0]

/-- The number that a digit beyond ASCII stands for. -/
def foreignDigit? (c : Char) : Option Nat :=
  (zeros.find? fun z => z ≤ c.toNat && c.toNat ≤ z + 9).map (c.toNat - ·)

/-- A character as it stands in a written number: a digit of any script by the digit of
ASCII, and a blank by a space. -/
def plainChar (c : Char) : Char :=
  match foreignDigit? c with
  | some d => Char.ofNat (48 + d)
  | none => if isBlank c then ' ' else c

/-- A written number in ASCII, as far as it goes.  A text in ASCII stays as it is. -/
def plain (cs : List Char) : List Char :=
  if cs.all (·.toNat < 128) then cs else cs.map plainChar

/-- **A text in ASCII is its own plain form.** -/
theorem plain_of_ascii {cs : List Char} (h : ∀ c ∈ cs, c.toNat < 128) : plain cs = cs := by
  have h' : cs.all (·.toNat < 128) = true := by simpa using h
  rw [plain, if_pos h']

end Tombola.Text
