import Tombola.Text.Quoted
import Tombola.Decimal.Shortest
/-!
# JSON values

Values, the fields of an object, and two ways to turn a value into text: `Value.write` is
JSON again, in ASCII, and `Value.shown` is how one item of a stored list of options is shown
to a user.

Main statements: `get?_insert_self`, `get?_insert_of_ne`, the last of two fields with one name
counts.
-/

namespace Tombola.Json

/-! ## 1. Values and fields -/

/-- A JSON value.  Whole numbers are kept apart from numbers with a fraction or an exponent. -/
inductive Value where
  | null
  | bool (b : Bool)
  | int (n : Int)
  | float (x : Float)
  | str (t : Text)
  | arr (items : List Value)
  | obj (fields : List (Text × Value))
  deriving Inhabited, Repr

/-- The fields of an object, in order. -/
abbrev Fields := List (Text × Value)

namespace Fields

def get? (k : Text) : Fields → Option Value
  | [] => none
  | (k', v) :: rest => if k' = k then some v else get? k rest

/-- Puts a value under a name.  A name that is there already keeps its place. -/
def insert (k : Text) (v : Value) : Fields → Fields
  | [] => [(k, v)]
  | (k', v') :: rest => if k' = k then (k, v) :: rest else (k', v') :: insert k v rest

@[simp] theorem get?_insert_self (k : Text) (v : Value) (fs : Fields) :
    get? k (insert k v fs) = some v := by
  induction fs with
  | nil => simp [insert, get?]
  | cons f fs ih =>
    obtain ⟨k', v'⟩ := f
    by_cases h : k' = k <;> simp [insert, get?, h, ih]

theorem get?_insert_of_ne {k k' : Text} (v : Value) (fs : Fields) (h : k' ≠ k) :
    get? k' (insert k v fs) = get? k' fs := by
  induction fs with
  | nil => simp [insert, get?, Ne.symm h]
  | cons f fs ih =>
    obtain ⟨k'', v''⟩ := f
    by_cases h1 : k'' = k
    · subst h1
      simp [insert, get?, Ne.symm h]
    · by_cases h2 : k'' = k'
      · subst h2
        simp [insert, get?, h1]
      · simp [insert, get?, h1, h2, ih]

end Fields

/-- The value under a name, if this is an object that has one. -/
def Value.field? (k : Text) : Value → Option Value
  | .obj fields => Fields.get? k fields
  | _ => none

def Value.ofString (s : String) : Value := .str (Text.ofString s)

def Value.ofStrings (ss : List String) : Value := .arr (ss.map Value.ofString)

/-- The fields as an object, under names given as strings. -/
def Value.ofFields (fs : List (String × Value)) : Value :=
  .obj (fs.map fun f => (Text.ofString f.1, f.2))

theorem Value.field?_ofFields (k : String) (fs : List (String × Value)) :
    (Value.ofFields fs).field? (Text.ofString k) = (fs.find? (·.1 = k)).map (·.2) := by
  unfold ofFields field?
  induction fs with
  | nil => rfl
  | cons f fs ih =>
    simp only [List.map_cons, Fields.get?]
    by_cases h : f.1 = k
    · rw [if_pos (congrArg _ h), List.find?_cons_of_pos (by simpa using h)]
      rfl
    · rw [if_neg fun e => h (Text.ofString_injective e), List.find?_cons_of_neg (by simpa using h)]
      exact ih

/-! ## 2. Writing JSON -/

def unitEscape (n : Nat) : List Char := '\\' :: 'u' :: Text.hexDigits 4 n

/-- A code point inside a JSON string.  What is not ASCII, or not printable, is escaped by
its 16-bit units. -/
def escape : CodePoint → List Char
  | .lone n => unitEscape (0xD800 + n.val)
  | .char c =>
    if c = '"' then ['\\', '"']
    else if c = '\\' then ['\\', '\\']
    else if c = '\n' then ['\\', 'n']
    else if c = '\r' then ['\\', 'r']
    else if c = '\t' then ['\\', 't']
    else if c = '\x0c' then ['\\', 'f']
    else if c = '\x08' then ['\\', 'b']
    else if 0x20 ≤ c.toNat ∧ c.toNat ≤ 0x7E then [c]
    else if c.toNat < 0x10000 then unitEscape c.toNat
    else
      unitEscape (0xD800 + (c.toNat - 0x10000) / 1024)
        ++ unitEscape (0xDC00 + (c.toNat - 0x10000) % 1024)

def writeString (t : Text) : String := String.ofList ('"' :: t.flatMap escape ++ ['"'])

/-- A number with a fraction; the three that are not finite have names. -/
def writeFloat (x : Float) : String :=
  let s := Decimal.text x
  if s = "nan" then "NaN"
  else if s = "inf" then "Infinity"
  else if s = "-inf" then "-Infinity"
  else s

mutual

/-- A value as JSON, with `", "` between items and `": "` after names. -/
def Value.write : Value → String
  | .null => "null"
  | .bool b => if b then "true" else "false"
  | .int n => toString n
  | .float x => writeFloat x
  | .str t => writeString t
  | .arr items => "[" ++ writeItems items ++ "]"
  | .obj fields => "\x7b" ++ writeFields fields ++ "\x7d"

def writeItems : List Value → String
  | [] => ""
  | [v] => v.write
  | v :: vs => v.write ++ ", " ++ writeItems vs

def writeFields : List (Text × Value) → String
  | [] => ""
  | [(k, v)] => writeString k ++ ": " ++ v.write
  | (k, v) :: fs => writeString k ++ ": " ++ v.write ++ ", " ++ writeFields fs

end

/-! ## 3. Showing an item -/

mutual

/-- A value inside another one: strings are quoted. -/
def Value.nested : Value → String
  | .null => "None"
  | .bool b => if b then "True" else "False"
  | .int n => toString n
  | .float x => Decimal.text x
  | .str t => Text.quotedText t
  | .arr items => "[" ++ nestedItems items ++ "]"
  | .obj fields => "\x7b" ++ nestedFields fields ++ "\x7d"

def nestedItems : List Value → String
  | [] => ""
  | [v] => v.nested
  | v :: vs => v.nested ++ ", " ++ nestedItems vs

def nestedFields : List (Text × Value) → String
  | [] => ""
  | [(k, v)] => Text.quotedText k ++ ": " ++ v.nested
  | (k, v) :: fs => Text.quotedText k ++ ": " ++ v.nested ++ ", " ++ nestedFields fs

end

/-- A value on its own: a string is shown as it is. -/
def Value.shown : Value → Text
  | .str t => t
  | v => Text.ofString v.nested

/-! ## 4. Going through a value -/

/-- What a value that has no items is called. -/
inductive Itemless where
  | null
  | bool
  | int
  | float
  deriving DecidableEq, Repr

/-- The name of a kind of value without items. -/
def Itemless.name : Itemless → String
  | .null => "NoneType"
  | .bool => "bool"
  | .int => "int"
  | .float => "float"

/-- The items of an array, the names of an object, the characters of a string. -/
def Value.items : Value → Except Itemless (List Value)
  | .null => .error .null
  | .bool _ => .error .bool
  | .int _ => .error .int
  | .float _ => .error .float
  | .str t => .ok (t.map fun c => .str [c])
  | .arr items => .ok items
  | .obj fields => .ok (fields.map fun f => .str f.1)

end Tombola.Json
