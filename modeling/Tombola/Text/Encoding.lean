import Tombola.Text.Utf8
/-!
# The encoding of a JSON text

A JSON text given as octets is in UTF-8, UTF-16 or UTF-32.  A byte order mark decides;
without one, the places of the zero octets among the first four do, since a JSON text
begins with two ASCII characters.  Surrogates that stand alone are let through: they are
refused, or not, by what reads the text.
-/

namespace Tombola

/-- The encodings of a JSON text. -/
inductive Encoding where
  | utf8
  | utf16 (bigEndian : Bool)
  | utf32 (bigEndian : Bool)
  deriving DecidableEq, Repr

namespace Encoding

/-! ## 1. Detection -/

/-- The encoding that the zero octets show. -/
def byZeros : List UInt8 → Encoding
  | a :: b :: c :: d :: _ =>
    if a = 0 then (if b = 0 then .utf32 true else .utf16 true)
    else if b = 0 then (if c = 0 ∧ d = 0 then .utf32 false else .utf16 false)
    else .utf8
  | [a, b] => if a = 0 then .utf16 true else if b = 0 then .utf16 false else .utf8
  | _ => .utf8

/-- The encoding, and the octets after the byte order mark if there is one. -/
def detect : List UInt8 → Encoding × List UInt8
  | 0x00 :: 0x00 :: 0xFE :: 0xFF :: rest => (.utf32 true, rest)
  | 0xFF :: 0xFE :: 0x00 :: 0x00 :: rest => (.utf32 false, rest)
  | 0xFE :: 0xFF :: rest => (.utf16 true, rest)
  | 0xFF :: 0xFE :: rest => (.utf16 false, rest)
  | 0xEF :: 0xBB :: 0xBF :: rest => (.utf8, rest)
  | octets => (byZeros octets, octets)

/-! ## 2. Decoding -/

/-- The 16-bit units of a list of octets; `none` when one octet is left over. -/
def units16? (bigEndian : Bool) : List UInt8 → Option (List Nat)
  | [] => some []
  | [_] => none
  | a :: b :: rest =>
    let u := if bigEndian then a.toNat * 256 + b.toNat else b.toNat * 256 + a.toNat
    (units16? bigEndian rest).map (u :: ·)

/-- Whether a unit is the first half of a surrogate pair. -/
def isHigh (u : Nat) : Bool := 0xD800 ≤ u && u < 0xDC00

/-- Whether a unit is the second half of a surrogate pair. -/
def isLow (u : Nat) : Bool := 0xDC00 ≤ u && u < 0xE000

/-- The number that a surrogate pair stands for. -/
def paired (high low : Nat) : Nat := 0x10000 + (high - 0xD800) * 1024 + (low - 0xDC00)

/-- Joins surrogate pairs; `held` is a first half that waits for its second. -/
def joinUnits : Option Nat → List Nat → List Nat
  | none, [] => []
  | some h, [] => [h]
  | none, u :: us => if isHigh u then joinUnits (some u) us else u :: joinUnits none us
  | some h, u :: us =>
    if isLow u then paired h u :: joinUnits none us
    else if isHigh u then h :: joinUnits (some u) us
    else h :: u :: joinUnits none us

/-- The 32-bit units of a list of octets; `none` when octets are left over. -/
def units32? (bigEndian : Bool) : List UInt8 → Option (List Nat)
  | [] => some []
  | a :: b :: c :: d :: rest =>
    let value (p q r s : UInt8) : Nat :=
      ((p.toNat * 256 + q.toNat) * 256 + r.toNat) * 256 + s.toNat
    let u := if bigEndian then value a b c d else value d c b a
    (units32? bigEndian rest).map (u :: ·)
  | _ => none

/-- The text of a list of octets in this encoding. -/
def decode? : Encoding → List UInt8 → Option Text
  | .utf8, bs => Utf8.decodeText? bs
  | .utf16 big, bs => (units16? big bs).bind fun us => (joinUnits none us).mapM CodePoint.ofNat?
  | .utf32 big, bs => (units32? big bs).bind fun us => us.mapM CodePoint.ofNat?

/-- The text of a list of octets in the encoding that they show. -/
def read? (octets : List UInt8) : Option Text :=
  let (e, rest) := detect octets
  e.decode? rest

end Encoding

end Tombola
