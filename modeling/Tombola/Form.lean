import Tombola.Text.Percent
import Tombola.Text.Blank
import Tombola.Groups.Entries
/-!
# Forms

The body of a request is a form: pairs of a name and a value, with an equals sign inside
each pair and ampersands between them, a plus sign for a space and percent encoding for what
else cannot stand there.  Reading never fails: what is malformed is replaced, a pair without
an equals sign has an empty value, and of several pairs with one name the first counts.

Main statements: `get?_cons`, the first pair with a name counts; `get?_gathered`, what is
gathered under a name.
-/

namespace Tombola

open Groups (Entries)

/-- The pairs of a form, in order. -/
abbrev Form := List (String × String)

namespace Form

/-- The value of the first pair with a name. -/
def get? (k : String) : Form → Option String
  | [] => none
  | (k', v) :: rest => if k' = k then some v else get? k rest

/-- The value of the first pair with a name; empty where there is none. -/
def value (k : String) (f : Form) : String := (f.get? k).getD ""

theorem get?_cons (k k' v : String) (f : Form) :
    get? k ((k', v) :: f) = if k' = k then some v else get? k f := rfl

/-! ## 1. Reading -/

/-- A name or a value: spaces for plus signs, then percent encoding. -/
def decodePart (cs : List Char) : String :=
  String.ofList (Percent.decode (cs.map fun c => if c = '+' then ' ' else c))

/-- A pair: what stands before the first equals sign, and what stands behind it. -/
def decodePair (cs : List Char) : String × String :=
  (decodePart (cs.takeWhile (· ≠ '=')), decodePart ((cs.dropWhile (· ≠ '=')).drop 1))

/-- The pairs of a text; empty pieces are none. -/
def ofChars (cs : List Char) : Form :=
  ((Text.pieces (· == '&') cs).filter (! ·.isEmpty)).map decodePair

def ofOctets (body : List UInt8) : Form := ofChars (Utf8.decodeLossy body)

/-! ## 2. Writing -/

/-- Characters that stand for themselves. -/
def isPlain (c : Char) : Bool :=
  c.isAlphanum || c == '_' || c == '.' || c == '-' || c == '~'

/-- A name or a value as it is written. -/
def encodePart (s : String) : List Char :=
  s.toList.flatMap fun c =>
    if c = ' ' then ['+'] else if isPlain c then [c] else Percent.charEscape c

def encode (f : Form) : List Char :=
  ['&'].intercalate (f.map fun p => encodePart p.1 ++ '=' :: encodePart p.2)

def toOctets (f : Form) : List UInt8 := Utf8.encodeChars (encode f)

/-! ## 3. Fields -/

/-- The values of the pairs with a name, in order. -/
def values (k : String) (f : Form) : List String := (f.filter fun p => p.1 = k).map (·.2)

/-- Puts the value of a pair behind those that its name has already. -/
def gather (fields : Entries (List String)) (p : String × String) : Entries (List String) :=
  fields.put p.1 ((fields.get? p.1).getD [] ++ [p.2])

/-- The values under each name. -/
def gathered (f : Form) : Entries (List String) := f.foldl gather []

/-- The first value under each name; `none` when there is a name without a value. -/
def firsts? (fields : Entries (List String)) : Option (Entries String) :=
  fields.mapM fun e => e.2.head?.map fun v => (e.1, v)

/-- The fields of a body: each name with its first value. -/
def fields? (body : List UInt8) : Option (Entries String) := firsts? (gathered (ofOctets body))

theorem values_cons (k : String) (p : String × String) (f : Form) :
    values k (p :: f) = if p.1 = k then p.2 :: values k f else values k f := by
  by_cases h : p.1 = k
  · simp [values, h]
  · simp [values, h]

/-- The first value under a name is the one that counts. -/
theorem head?_values (k : String) (f : Form) : (values k f).head? = f.get? k := by
  induction f with
  | nil => rfl
  | cons p f ih =>
    rw [values_cons, get?_cons]
    split
    · rfl
    · exact ih

theorem get?_foldl_gather (k : String) (f : Form) (fields : Entries (List String)) :
    (f.foldl gather fields).get? k =
      if values k f = [] then fields.get? k
      else some ((fields.get? k).getD [] ++ values k f) := by
  induction f generalizing fields with
  | nil => rfl
  | cons p f ih =>
    rw [List.foldl_cons, ih, values_cons, gather, Entries.get?_put]
    by_cases h : p.1 = k
    · by_cases hf : values k f = []
      · simp [h, hf]
      · simp [h, hf]
    · simp [h, Ne.symm h]

/-- **What is gathered under a name** are its values, if it has any. -/
theorem get?_gathered (k : String) (f : Form) :
    (gathered f).get? k = if values k f = [] then none else some (values k f) := by
  rw [gathered, get?_foldl_gather]
  rfl

end Form

end Tombola
