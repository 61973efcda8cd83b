/-!
# Code points

A string of a JSON text may hold half of a surrogate pair on its own (`"\ud83d"`), which no
`Char` can be.  `Text` is a list of code points in which such a half keeps its place and its
number; everything that is read out of JSON is a `Text` until it is shown to be a `String`.

Main statements:

* `toString?_ofString`: a string goes to a text and comes back unchanged;
* `ofString_injective`: two strings with the same text are equal;
* `ofNat?_toNat`: a character is the code point with its number.
-/

namespace Tombola

/-- A code point: a character, or the lone surrogate U+D800 + `n`. -/
inductive CodePoint where
  | char (c : Char)
  | lone (n : Fin 2048)
  deriving DecidableEq, Inhabited, Repr

namespace CodePoint

def toNat : CodePoint → Nat
  | .char c => c.toNat
  | .lone n => 0xD800 + n.val

/-- The code point with the number `n`; numbers beyond U+10FFFF have none. -/
def ofNat? (n : Nat) : Option CodePoint :=
  if h : n.isValidChar then some (.char (Char.ofNatAux n h))
  else if h : n - 0xD800 < 2048 ∧ 0xD800 ≤ n then some (.lone ⟨n - 0xD800, h.1⟩)
  else none

theorem toNat_lt (c : Char) : c.toNat < 0x110000 := by
  have h : c.toNat.isValidChar := c.valid
  simp only [Nat.isValidChar] at h
  omega

@[simp] theorem ofNat?_toNat (c : Char) : ofNat? c.toNat = some (.char c) := by
  have h : c.toNat.isValidChar := c.valid
  rw [ofNat?, dif_pos h]
  rfl

/-- The character itself; a lone surrogate becomes the replacement character. -/
def toChar : CodePoint → Char
  | .char c => c
  | .lone _ => '\uFFFD'

/-- The character itself, where there is one. -/
def toChar? : CodePoint → Option Char
  | .char c => some c
  | .lone _ => none

end CodePoint

/-- A sequence of code points. -/
abbrev Text := List CodePoint

namespace Text

def ofString (s : String) : Text := s.toList.map .char

/-- The string with this text, if no surrogate stands alone. -/
def toString? (t : Text) : Option String :=
  (t.mapM CodePoint.toChar?).map String.ofList

/-- The string with this text, with U+FFFD for each lone surrogate. -/
def shown (t : Text) : String := String.ofList (t.map CodePoint.toChar)

theorem mapM_toChar? (cs : List Char) :
    (cs.map CodePoint.char).mapM CodePoint.toChar? = some cs := by
  induction cs with
  | nil => rfl
  | cons c cs ih => simp [List.mapM_cons, CodePoint.toChar?, ih]

@[simp] theorem toString?_ofString (s : String) : toString? (ofString s) = some s := by
  rw [toString?, ofString, mapM_toChar?]
  simp

theorem ofString_injective {s t : String} (h : ofString s = ofString t) : s = t := by
  have := congrArg toString? h
  simpa using this

@[simp] theorem shown_ofString (s : String) : shown (ofString s) = s := by
  simp only [shown, ofString, List.map_map]
  rw [show CodePoint.toChar ∘ CodePoint.char = id from rfl]
  simp

theorem ofString_append (s t : String) : ofString (s ++ t) = ofString s ++ ofString t := by
  simp [ofString]

@[simp] theorem length_ofString (s : String) : (ofString s).length = s.toList.length := by
  simp [ofString]

end Text

end Tombola
