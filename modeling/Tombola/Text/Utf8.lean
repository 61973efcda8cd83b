import Tombola.Text.Quoted
/-!
# UTF-8

Writing is a function on numbers.  Reading is a machine over octets whose state says which
octet may come next; an octet that may not come ends the sequence there as malformed and is
looked at again as a first octet, so every ill-formed sequence counts as malformed in its
longest possible beginning.  One list of readings serves the strict and the lossy decoder.

Main statements:

* `readings_append_of_settled`: what was read of a finished part does not depend on the rest;
* `encodeText_eq_ok_iff`: the texts that have octets.
-/

namespace Tombola.Utf8

/-! ## 1. Writing -/

def encodeNat (n : Nat) : List UInt8 :=
  if n < 0x80 then [n.toUInt8]
  else if n < 0x800 then [(0xC0 + n / 64).toUInt8, (0x80 + n % 64).toUInt8]
  else if n < 0x10000 then
    [(0xE0 + n / 4096).toUInt8, (0x80 + n / 64 % 64).toUInt8, (0x80 + n % 64).toUInt8]
  else
    [(0xF0 + n / 262144).toUInt8, (0x80 + n / 4096 % 64).toUInt8,
      (0x80 + n / 64 % 64).toUInt8, (0x80 + n % 64).toUInt8]

def encodeChars (cs : List Char) : List UInt8 := cs.flatMap fun c => encodeNat c.toNat

def encode (s : String) : List UInt8 := encodeChars s.toList

/-! ## 2. Texts that cannot be written -/

/-- Why a text has no written form in a code: the first run of code points outside it. -/
structure Unencodable where
  code : String
  /-- The first code point of the run. -/
  first : CodePoint
  /-- The index of the first code point of the run. -/
  start : Nat
  /-- The number of code points in the run. -/
  count : Nat
  /-- What the code does not admit. -/
  reason : String
  deriving DecidableEq, Repr

namespace Unencodable

def message (u : Unencodable) : String :=
  let place :=
    if u.count = 1 then
      "character '" ++ String.ofList (Text.numbered u.first.toNat) ++ "' in position "
        ++ toString u.start
    else
      "characters in position " ++ toString u.start ++ "-" ++ toString (u.start + u.count - 1)
  "'" ++ u.code ++ "' codec can't encode " ++ place ++ ": " ++ u.reason

/-- The first run of code points with the property `bad`, if there is one. -/
def find? (code reason : String) (bad : CodePoint → Bool) (t : Text) : Option Unencodable :=
  match t.dropWhile (! bad ·) with
  | [] => none
  | c :: rest =>
    some ⟨code, c, (t.takeWhile (! bad ·)).length, (rest.takeWhile bad).length + 1, reason⟩

end Unencodable

/-- Lone surrogates have no UTF-8. -/
def isLone : CodePoint → Bool
  | .lone _ => true
  | .char _ => false

/-- The octets of a text, or its first run of lone surrogates. -/
def encodeText (t : Text) : Except Unencodable (List UInt8) :=
  match Unencodable.find? "utf-8" "surrogates not allowed" isLone t with
  | some u => .error u
  | none => .ok (t.flatMap fun c => encodeNat c.toNat)

theorem Unencodable.find?_eq_none_iff {code reason : String} {bad : CodePoint → Bool} {t : Text} :
    find? code reason bad t = none ↔ ∀ c ∈ t, bad c = false := by
  have hdrop : find? code reason bad t = none ↔ t.dropWhile (! bad ·) = [] := by
    unfold find?
    cases t.dropWhile (! bad ·) <;> simp
  rw [hdrop]
  clear hdrop
  induction t with
  | nil => simp
  | cons c t ih => cases hc : bad c <;> simp [hc, ih]

theorem flatMap_ofString (s : String) :
    (Text.ofString s).flatMap (fun c => encodeNat c.toNat) = encode s := by
  simp [Text.ofString, encode, encodeChars, List.flatMap_map, CodePoint.toNat]

theorem ofString_shown {t : Text} (h : ∀ c ∈ t, isLone c = false) : Text.ofString t.shown = t := by
  rw [Text.ofString, Text.shown, String.toList_ofList, List.map_map]
  refine (List.map_congr_left fun c hc => ?_).trans (List.map_id t)
  cases c with
  | char c => rfl
  | lone n => cases h _ hc

theorem isLone_of_mem_ofString {s : String} {c : CodePoint} (h : c ∈ Text.ofString s) :
    isLone c = false := by
  obtain ⟨c, -, rfl⟩ := List.mem_map.mp h
  rfl

/-- **The texts with a UTF-8 form are the strings.** -/
theorem encodeText_eq_ok_iff {t : Text} {octets : List UInt8} :
    encodeText t = .ok octets ↔ ∃ s, t = Text.ofString s ∧ octets = encode s := by
  constructor
  · intro h
    unfold encodeText at h
    split at h
    · cases h
    · rename_i hnone
      have ht := ofString_shown (Unencodable.find?_eq_none_iff.mp hnone)
      refine ⟨t.shown, ht.symm, ?_⟩
      rw [← Except.ok.inj h, ← flatMap_ofString, ht]
  · rintro ⟨s, rfl, rfl⟩
    have hnone : Unencodable.find? "utf-8" "surrogates not allowed" isLone (Text.ofString s)
        = none :=
      Unencodable.find?_eq_none_iff.mpr fun _ => isLone_of_mem_ofString
    rw [encodeText, hnone]
    exact congrArg Except.ok (flatMap_ofString s)

/-- Looks for code points beyond ASCII. -/
def notAscii? (t : Text) : Option Unencodable :=
  Unencodable.find? "ascii" "ordinal not in range(128)" (fun c => 128 ≤ c.toNat) t

/-! ## 3. Reading -/

/-- A sequence begun and not finished. -/
structure Pending where
  low : Nat
  high : Nat
  /-- How many octets follow the next one. -/
  more : Nat
  /-- The bits read so far. -/
  value : Nat
  deriving DecidableEq, Repr

/-- A code point, or `none` for a malformed sequence. -/
abbrev Reading := Option CodePoint

/-- What a first octet begins.  With `surrogates`, three octets may stand for a surrogate. -/
def first (surrogates : Bool) (b : Nat) : List Reading × Option Pending :=
  if b < 0x80 then ([CodePoint.ofNat? b], none)
  else if b < 0xC2 then ([none], none)
  else if b < 0xE0 then ([], some ⟨0x80, 0xBF, 0, b - 0xC0⟩)
  else if b = 0xE0 then ([], some ⟨0xA0, 0xBF, 1, 0⟩)
  else if b = 0xED then ([], some ⟨0x80, if surrogates then 0xBF else 0x9F, 1, 0xD⟩)
  else if b < 0xF0 then ([], some ⟨0x80, 0xBF, 1, b - 0xE0⟩)
  else if b = 0xF0 then ([], some ⟨0x90, 0xBF, 2, 0⟩)
  else if b < 0xF4 then ([], some ⟨0x80, 0xBF, 2, b - 0xF0⟩)
  else if b = 0xF4 then ([], some ⟨0x80, 0x8F, 2, 4⟩)
  else ([none], none)

/-- One octet: what is finished by it, and what is begun. -/
def step (surrogates : Bool) : Option Pending → Nat → List Reading × Option Pending
  | none, b => first surrogates b
  | some p, b =>
    if p.low ≤ b ∧ b ≤ p.high then
      let v := p.value * 64 + (b - 0x80)
      if p.more = 0 then ([CodePoint.ofNat? v], none)
      else ([], some ⟨0x80, 0xBF, p.more - 1, v⟩)
    else
      let (out, next) := first surrogates b
      (none :: out, next)

/-- All readings of a list of octets; a sequence that the end cuts off is malformed. -/
def readings (surrogates : Bool) : Option Pending → List UInt8 → List Reading
  | none, [] => []
  | some _, [] => [none]
  | p, b :: bs =>
    let (out, next) := step surrogates p b.toNat
    out ++ readings surrogates next bs

/-- The characters, with U+FFFD for every malformed sequence. -/
def decodeLossy (bs : List UInt8) : List Char :=
  (readings false none bs).map fun r => (r.map CodePoint.toChar).getD '\uFFFD'

/-- The code points, lone surrogates included, unless a sequence is malformed. -/
def decodeText? (bs : List UInt8) : Option Text := (readings true none bs).mapM id

/-- The characters, unless a sequence is malformed. -/
def decode? (bs : List UInt8) : Option String :=
  ((readings false none bs).mapM id).bind Text.toString?

def stateAfter (surrogates : Bool) : Option Pending → List UInt8 → Option Pending
  | p, [] => p
  | p, b :: bs => stateAfter surrogates (step surrogates p b.toNat).2 bs

theorem readings_cons (sur : Bool) (p : Option Pending) (b : UInt8) (bs : List UInt8) :
    readings sur p (b :: bs) =
      (step sur p b.toNat).1 ++ readings sur (step sur p b.toNat).2 bs := by
  cases p <;> rfl

/-- **A finished part is read alike before any rest.** -/
theorem readings_append_of_settled {sur : Bool} {p : Option Pending} {as bs : List UInt8}
    (h : stateAfter sur p as = none) :
    readings sur p (as ++ bs) = readings sur p as ++ readings sur none bs := by
  induction as generalizing p with
  | nil =>
    have hp : p = none := h
    subst hp
    simp [readings]
  | cons a as ih =>
    simp only [stateAfter] at h
    simp only [List.cons_append, readings_cons, ih h, List.append_assoc]

end Tombola.Utf8
