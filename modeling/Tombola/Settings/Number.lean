import Tombola.Text.Blank
import Tombola.Decimal.Written
/-!
# Numbers in settings

Settings are texts; some of them are read as numbers.  White space around a number does not
count, and underscores may stand between its characters.

A whole number is an optional sign and digits; zeros in front do not count, and neither does a
point with zeros behind it.  A minus may also stand behind zeros.
-/

namespace Tombola.Settings

/-- Why a text is no number. -/
inductive NumberFault where
  | floatParsing
  | intParsing
  | intParsingSize
  deriving DecidableEq, Repr

def NumberFault.name : NumberFault → String
  | floatParsing => "float_parsing"
  | intParsing => "int_parsing"
  | intParsingSize => "int_parsing_size"

/-! ## 1. Underscores -/

/-- Whether two underscores stand side by side. -/
def hasPair : List Char → Bool
  | '_' :: '_' :: _ => true
  | _ :: cs => hasPair cs
  | [] => false

/-- The text without underscores, unless one stands at an end or two side by side. -/
def joined? (cs : List Char) : Option (List Char) :=
  if cs.head? = some '_' ∨ cs.getLast? = some '_' ∨ hasPair cs then none
  else some (cs.filter (· ≠ '_'))

/-! ## 2. Numbers with a fraction -/

/-- Reads a number with a fraction: with white space around it, or else with underscores. -/
def readFloat (s : String) : Except NumberFault Float :=
  match Decimal.written? (Text.trim Text.isWhite s.toList) with
  | some x => .ok x
  | none =>
    match (joined? s.toList).bind Decimal.written? with
    | some x => .ok x
    | none => .error .floatParsing

/-! ## 3. Whole numbers -/

/-- The whole number that a text stands for in its strict form: an optional minus and digits
without a zero in front. -/
def strict? (cs : List Char) : Option Int :=
  let (negative, ds) := match cs with
    | '-' :: r => (true, r)
    | r => (false, r)
  if ds ≠ [] ∧ ds.all Decimal.isDigit ∧ (ds.length = 1 ∨ ds.head? ≠ some '0') then
    let n : Int := Decimal.value ds
    some (if negative then -n else n)
  else none

/-- The greatest number of digits of a whole number. -/
def maxIntDigits : Nat := 4300

/-- Whether a text begins, behind an optional minus, with a number of too many digits,
whatever follows it. -/
def isTooLong (cs : List Char) : Bool :=
  let ds := (match cs with | '-' :: r => r | r => r).takeWhile Decimal.isDigit
  maxIntDigits < ds.length && ds.head? ≠ some '0'

/-- Drops the zeros and underscores in front of the first other character; `before` is the
character just before.  A minus may follow them. -/
def dropZeros (before : Char) : List Char → Option (List Char)
  | [] => some [before]
  | c :: cs =>
    if c = '0' ∨ c = '_' then dropZeros c cs
    else if Decimal.isDigit c ∨ c = '-' then some (c :: cs)
    else if c = '.' then some (before :: c :: cs)
    else none

/-- Drops zeros in front of a text that begins with one. -/
def withoutZeros? : List Char → Option (List Char)
  | '0' :: cs => dropZeros '0' cs
  | c :: cs => if Decimal.isDigit c then some (c :: cs) else none
  | [] => none

/-- Drops a point with zeros and nothing else behind it. -/
def withoutFraction (cs : List Char) : List Char :=
  match cs.dropWhile (· ≠ '.') with
  | _ :: zeros => if zeros ≠ [] ∧ zeros.all (· = '0') then cs.takeWhile (· ≠ '.') else cs
  | [] => cs

/-- The strict form of a text without a sign. -/
def unsignedForm? (cs : List Char) : Option (List Char) :=
  (withoutZeros? cs).bind fun r => joined? (withoutFraction r)

/-- The strict form of a text. -/
def cleaned? (cs : List Char) : Option (List Char) :=
  match Text.trim Text.isWhite cs with
  | '+' :: '-' :: _ => none
  | '+' :: r => unsignedForm? r
  | '-' :: r => (unsignedForm? r).map ('-' :: ·)
  | r => unsignedForm? r

/-- Reads a whole number: in strict form, or in a form that cleaning makes strict.  Only a
text that is too long as it stands is said to be too long. -/
def readInt (s : String) : Except NumberFault Int :=
  let cs := s.toList
  if isTooLong cs then .error .intParsingSize
  else match strict? cs with
    | some n => .ok n
    | none =>
      match cleaned? cs with
      | none => .error .intParsing
      | some clean =>
        if isTooLong clean then .error .intParsing
        else match strict? clean with
          | some n => .ok n
          | none => .error .intParsing

end Tombola.Settings
