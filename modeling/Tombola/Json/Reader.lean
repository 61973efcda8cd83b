import Tombola.Json.Value
import Tombola.Decimal.Nearest
import Tombola.Text.Encoding
/-!
# Reading JSON

The reader takes what it can from the front of a text and returns the rest.  A fault names
what was wrong and keeps the rest of the text at that place, from which line, column and
index follow.  It goes beyond the standard in three points: NaN, Infinity and -Infinity are
numbers, a string may hold any escaped or plain code point from the space on, and of two
fields with one name the last counts.  Whole numbers have at most 4300 digits, and a reader
may be told how deep arrays and objects may be nested.

Main statement: `value_array_full`, no array is opened beyond the depth that is allowed.
-/

namespace Tombola.Json

/-! ## 1. Faults -/

/-- What can be nested. -/
inductive Nest where
  | array
  | object
  deriving DecidableEq, Repr

def Nest.name : Nest → String
  | array => "array"
  | object => "object"

/-- What can be wrong with a text, and the rest of the text at that place. -/
inductive Fault where
  | value (rest : Text)
  | comma (rest : Text)
  | colon (rest : Text)
  | name (rest : Text)
  | control (rest : Text)
  | unterminated (start : Text)
  | letterEscape (rest : Text)
  | unicodeEscape (rest : Text)
  | extra (rest : Text)
  | mark (rest : Text)
  | digits (count : Nat)
  /-- Nested deeper than is allowed; the place does not matter. -/
  | depth (nest : Nest)
  deriving DecidableEq, Repr

/-- The greatest number of digits of a whole number. -/
def maxDigits : Nat := 4300

/-- The sentence about a number with too many digits. -/
def tooManyDigits (count : Nat) : String :=
  "Exceeds the limit (" ++ toString maxDigits
    ++ " digits) for integer string conversion: value has " ++ toString count
    ++ " digits; use sys.set_int_max_str_digits() to increase the limit"

/-- The sentence about a fault at the index where `rest` begins in `whole`.  Lines and
columns are counted from one. -/
def located (whole rest : Text) (what : String) : String :=
  let index := whole.length - rest.length
  let before := whole.take index
  let line := (before.filter (· = .char '\n')).length + 1
  let column := (before.reverse.takeWhile (· ≠ .char '\n')).length + 1
  what ++ ": line " ++ toString line ++ " column " ++ toString column ++ " (char "
    ++ toString index ++ ")"

/-- The sentence about a fault in the text `whole`. -/
def Fault.message (whole : Text) : Fault → String
  | .value r => located whole r "Expecting value"
  | .comma r => located whole r "Expecting ',' delimiter"
  | .colon r => located whole r "Expecting ':' delimiter"
  | .name r => located whole r "Expecting property name enclosed in double quotes"
  | .control r => located whole r "Invalid control character at"
  | .unterminated r => located whole r "Unterminated string starting at"
  | .letterEscape r => located whole r "Invalid \\escape"
  | .unicodeEscape r => located whole r "Invalid \\uXXXX escape"
  | .extra r => located whole r "Extra data"
  | .mark r => located whole r "Unexpected UTF-8 BOM (decode using utf-8-sig)"
  | .digits n => tooManyDigits n
  | .depth n =>
    "maximum recursion depth exceeded while decoding a JSON " ++ n.name ++ " from a unicode string"

/-! ## 2. Leaves -/

def skip : Text → Text
  | .char c :: rest =>
    if c = ' ' ∨ c = '\t' ∨ c = '\n' ∨ c = '\r' then skip rest else .char c :: rest
  | t => t

def spanDigits : Text → List Char × Text
  | .char c :: rest =>
    if Decimal.isDigit c then
      let (ds, r) := spanDigits rest
      (c :: ds, r)
    else ([], .char c :: rest)
  | t => ([], t)

def hexValue? (c : CodePoint) : Option Nat :=
  match c with
  | .lone _ => none
  | .char c =>
    if '0' ≤ c ∧ c ≤ '9' then some (c.toNat - 48)
    else if 'a' ≤ c ∧ c ≤ 'f' then some (c.toNat - 87)
    else if 'A' ≤ c ∧ c ≤ 'F' then some (c.toNat - 55)
    else none

def hex4? (a b c d : CodePoint) : Option Nat := do
  let a ← hexValue? a
  let b ← hexValue? b
  let c ← hexValue? c
  let d ← hexValue? d
  pure (((a * 16 + b) * 16 + c) * 16 + d)

/-! ## 3. Strings -/

/-- A part of a string: a code point as it stands or by a letter, or an escaped 16-bit unit. -/
inductive Piece where
  | plain (c : CodePoint)
  | unit (n : Nat)
  deriving DecidableEq, Repr

/-- What a letter after a backslash stands for. -/
def letterEscape? : CodePoint → Option Char
  | .char '"' => some '"'
  | .char '\\' => some '\\'
  | .char '/' => some '/'
  | .char 'b' => some '\x08'
  | .char 'f' => some '\x0c'
  | .char 'n' => some '\n'
  | .char 'r' => some '\r'
  | .char 't' => some '\t'
  | _ => none

/-- The code point with the number `n`. -/
def point (n : Nat) : CodePoint := (CodePoint.ofNat? n).getD (.char '\uFFFD')

/-- The text of the parts: two escaped halves of a pair that follow each other are one
character.  `held` is a first half. -/
def ofPieces : Option Nat → List Piece → Text
  | none, [] => []
  | some h, [] => [point h]
  | none, .plain c :: r => c :: ofPieces none r
  | some h, .plain c :: r => point h :: c :: ofPieces none r
  | none, .unit u :: r =>
    if Encoding.isHigh u then ofPieces (some u) r else point u :: ofPieces none r
  | some h, .unit u :: r =>
    if Encoding.isLow u then point (Encoding.paired h u) :: ofPieces none r
    else if Encoding.isHigh u then point h :: ofPieces (some u) r
    else point h :: point u :: ofPieces none r

/-- Reads the parts of a string behind its opening quote; `start` is the text from that
quote on, `acc` the parts read so far, the last one first.  An escape by number needs one
more character behind it. -/
def pieces (start : Text) (acc : List Piece) : Text → Except Fault (List Piece × Text)
  | [] => .error (.unterminated start)
  | .char '"' :: rest => .ok (acc.reverse, rest)
  | [.char '\\'] => .error (.unterminated start)
  | .char '\\' :: .char 'u' :: a :: b :: c :: d :: e :: rest =>
    match hex4? a b c d with
    | some n => pieces start (.unit n :: acc) (e :: rest)
    | none => .error (.unicodeEscape (.char 'u' :: a :: b :: c :: d :: e :: rest))
  | .char '\\' :: .char 'u' :: rest => .error (.unicodeEscape (.char 'u' :: rest))
  | .char '\\' :: c :: rest =>
    match letterEscape? c with
    | some l => pieces start (.plain (.char l) :: acc) rest
    | none => .error (.letterEscape (.char '\\' :: c :: rest))
  | c :: rest =>
    if c.toNat < 0x20 then .error (.control (c :: rest))
    else pieces start (.plain c :: acc) rest

/-- Reads a string; `start` begins with its opening quote. -/
def string (start : Text) : Except Fault (Text × Text) :=
  (pieces start [] start.tail).map fun (ps, rest) => (ofPieces none ps, rest)

/-! ## 4. Numbers -/

/-- The fraction at the front: a point and at least one digit. -/
def fraction : Text → Option (List Char) × Text
  | .char '.' :: rest =>
    match spanDigits rest with
    | ([], _) => (none, .char '.' :: rest)
    | (ds, r) => (some ds, r)
  | t => (none, t)

/-- An optional sign, true for a minus. -/
def sign : Text → Bool × Text
  | .char '-' :: rest => (true, rest)
  | .char '+' :: rest => (false, rest)
  | t => (false, t)

/-- The exponent at the front: a letter, an optional sign and at least one digit. -/
def exponent (t : Text) : Option Int × Text :=
  match t with
  | .char c :: rest =>
    if c = 'e' ∨ c = 'E' then
      let (negative, r) := sign rest
      match spanDigits r with
      | ([], _) => (none, t)
      | (ds, r) =>
        let n : Int := Decimal.value ds
        (some (if negative then -n else n), r)
    else (none, t)
  | _ => (none, t)

/-- The number with these parts.  Without fraction and exponent it is whole. -/
def numberOf (negative : Bool) (whole : List Char) (frac : Option (List Char))
    (power : Option Int) : Except Fault Value :=
  match frac, power with
  | none, none =>
    if maxDigits < whole.length then .error (.digits whole.length)
    else
      let n : Int := Decimal.value whole
      .ok (.int (if negative then -n else n))
  | _, _ =>
    let fs := frac.getD []
    let x := Decimal.toFloat (Decimal.value (whole ++ fs)) (power.getD 0 - fs.length)
    .ok (.float (if negative then -x else x))

/-- Reads a number.  A whole part with more than one digit does not begin with a zero. -/
def number (t : Text) : Except Fault (Value × Text) :=
  let (negative, unsigned) := match t with
    | .char '-' :: rest => (true, rest)
    | _ => (false, t)
  let (whole, rest) := match unsigned with
    | .char '0' :: rest => (['0'], rest)
    | _ => spanDigits unsigned
  if whole = [] then .error (.value t)
  else
    let (frac, rest) := fraction rest
    let (power, rest) := exponent rest
    (numberOf negative whole frac power).map (·, rest)

/-! ## 5. Values -/

mutual

/-- Reads one value.  `room` is how many arrays and objects may still be opened inside one
another. -/
def value : Nat → Nat → Text → Except Fault (Value × Text)
  | 0, _, t => .error (.value t)
  | fuel + 1, room, t =>
    match t with
    | .char '"' :: _ => (string t).map fun (s, rest) => (.str s, rest)
    | .char '\x7b' :: rest =>
      match room with
      | 0 => .error (.depth .object)
      | room + 1 =>
        match skip rest with
        | .char '\x7d' :: rest => .ok (.obj [], rest)
        | rest => members fuel room [] rest
    | .char '[' :: rest =>
      match room with
      | 0 => .error (.depth .array)
      | room + 1 =>
        match skip rest with
        | .char ']' :: rest => .ok (.arr [], rest)
        | rest => elements fuel room [] rest
    | .char 'n' :: .char 'u' :: .char 'l' :: .char 'l' :: rest => .ok (.null, rest)
    | .char 't' :: .char 'r' :: .char 'u' :: .char 'e' :: rest => .ok (.bool true, rest)
    | .char 'f' :: .char 'a' :: .char 'l' :: .char 's' :: .char 'e' :: rest =>
      .ok (.bool false, rest)
    | .char 'N' :: .char 'a' :: .char 'N' :: rest => .ok (.float (0.0 / 0.0), rest)
    | .char 'I' :: .char 'n' :: .char 'f' :: .char 'i' :: .char 'n' :: .char 'i' :: .char 't'
        :: .char 'y' :: rest => .ok (.float (1.0 / 0.0), rest)
    | .char '-' :: .char 'I' :: .char 'n' :: .char 'f' :: .char 'i' :: .char 'n' :: .char 'i'
        :: .char 't' :: .char 'y' :: rest => .ok (.float (-1.0 / 0.0), rest)
    | _ => number t

/-- Reads the items of an array from the next item on; `acc` are the items before it. -/
def elements : Nat → Nat → List Value → Text → Except Fault (Value × Text)
  | 0, _, _, t => .error (.value t)
  | fuel + 1, room, acc, t =>
    match value fuel room t with
    | .error e => .error e
    | .ok (v, rest) =>
      match skip rest with
      | .char ']' :: rest => .ok (.arr (v :: acc).reverse, rest)
      | .char ',' :: rest => elements fuel room (v :: acc) (skip rest)
      | rest => .error (.comma rest)

/-- Reads the fields of an object from the next name on; `acc` are the fields before it. -/
def members : Nat → Nat → Fields → Text → Except Fault (Value × Text)
  | 0, _, _, t => .error (.value t)
  | fuel + 1, room, acc, t =>
    match t with
    | .char '"' :: _ =>
      match string t with
      | .error e => .error e
      | .ok (k, rest) =>
        match skip rest with
        | .char ':' :: rest =>
          match value fuel room (skip rest) with
          | .error e => .error e
          | .ok (v, rest) =>
            match skip rest with
            | .char '\x7d' :: rest => .ok (.obj (Fields.insert k v acc), rest)
            | .char ',' :: rest => members fuel room (Fields.insert k v acc) (skip rest)
            | rest => .error (.comma rest)
        | rest => .error (.colon rest)
    | _ => .error (.name t)

end

theorem value_array_full (fuel : Nat) (t : Text) :
    value (fuel + 1) 0 (.char '[' :: t) = .error (.depth .array) := by
  simp [value]

/-! ## 6. Texts -/

/-- Reads a text that is one value with white space around it, nested at most `depth` deep.
Every call of the reader takes a character or hands a shorter text on within two calls, so
the fuel is enough. -/
def readWithin (depth : Nat) (t : Text) : Except Fault Value :=
  match t with
  | .char '\uFEFF' :: _ => .error (.mark t)
  | _ =>
    match value (2 * t.length + 2) depth (skip t) with
    | .error e => .error e
    | .ok (v, rest) =>
      match skip rest with
      | [] => .ok v
      | rest => .error (.extra rest)

/-- Reads a text that is one value with white space around it.  A text is never nested
deeper than it is long. -/
def read (t : Text) : Except Fault Value := readWithin t.length t

end Tombola.Json
