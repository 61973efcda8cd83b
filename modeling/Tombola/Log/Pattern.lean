import Tombola.Decimal.Fixed
import Tombola.Json.Value
/-!
# Patterns

The message of a call on the log is a pattern with marks in it, and arguments take the places
of the marks.  A mark is a percent sign, possibly a name in parentheses, flags, a width, a
precision, one letter for a size that does not count, and a letter that says how the argument
is written.  Width and precision may be arguments of their own.  Two percent signs stand for
one.

A single argument that is an object with fields has its fields put in by name, or is itself
the only argument.  Otherwise every argument has to be used.
-/

namespace Tombola.Log

open Json

/-! ## 1. Marks -/

/-- What stands between the percent sign and the last letter of a mark. -/
structure Mark where
  /-- Filled up behind and not in front. -/
  left : Bool
  /-- A plus in front of numbers that are not negative. -/
  plus : Bool
  /-- A space in front of numbers that are not negative. -/
  blank : Bool
  long : Bool
  /-- Numbers are filled up with zeros. -/
  zero : Bool
  width : Option Nat
  precision : Option Nat
  deriving Repr

/-- Nothing stands there. -/
def Mark.empty : Mark := ⟨false, false, false, false, false, none, none⟩

/-- A mark with a flag, if the character is one. -/
def Mark.flag? (m : Mark) (c : Char) : Option Mark :=
  if c = '-' then some { m with left := true }
  else if c = '+' then some { m with plus := true }
  else if c = ' ' then some { m with blank := true }
  else if c = '#' then some { m with long := true }
  else if c = '0' then some { m with zero := true }
  else none

/-- A written argument filled up to the width.  `signed` says that it is a number, and the
first `marked` of its characters behind the sign are its base. -/
def Mark.lay (m : Mark) (signed : Bool) (marked : Nat) (body : Text) : Text :=
  let (sign, body) : Text × Text := match signed, body with
    | true, .char '-' :: rest => ([.char '-'], rest)
    | true, _ =>
      (if m.plus then [.char '+'] else if m.blank then [.char ' '] else [], body)
    | false, _ => ([], body)
  let room := (m.width.getD 0) - body.length - sign.length
  if m.left then sign ++ body ++ List.replicate room (.char ' ')
  else if signed && m.zero then
    sign ++ body.take marked ++ List.replicate room (.char '0') ++ body.drop marked
  else List.replicate room (.char ' ') ++ sign ++ body

/-! ## 2. Arguments -/

def textOf (cs : List Char) : Text := cs.map .char

/-- A text in ASCII: all other characters by their numbers. -/
def asciiText (s : String) : Text :=
  textOf (s.toList.flatMap fun c => if c.toNat < 128 then [c] else Text.numbered c.toNat)

def wholeOf? : Value → Option Int
  | .int n => some n
  | .bool b => some (if b then 1 else 0)
  | _ => none

/-- The whole number that an argument is or begins with. -/
def truncatedOf? : Value → Option Int
  | .float x => Decimal.truncated? x
  | v => wholeOf? v

/-- The number that an argument is; whole numbers beyond the doubles are none. -/
def realOf? : Value → Option Float
  | .float x => some x
  | v =>
    (wholeOf? v).bind fun n =>
      let x := Decimal.toFloat n.natAbs 0
      if x.isInf then none else some (if n < 0 then -x else x)

/-- The character that an argument is or has the number of. -/
def characterOf? : Value → Option CodePoint
  | .str [c] => some c
  | v => (wholeOf? v).bind fun n => if n < 0 then none else CodePoint.ofNat? n.toNat

/-- The digits of a number to a base up to sixteen. -/
def digitsTo (base n : Nat) : List Char := Nat.toDigits base n

/-- A whole number with at least as many digits as the precision says. -/
def wholeText (base : List Char) (ds : List Char) (negative : Bool) (precision : Nat) : Text :=
  textOf ((if negative then ['-'] else []) ++ base ++ Decimal.padded precision ds)

/-- A number to the base eight or sixteen. -/
def Mark.based (m : Mark) (base : Nat) (letter : Char) (v : Value) : Option Text :=
  (wholeOf? v).map fun n =>
    let sign := if m.long then ['0', letter] else []
    m.lay true sign.length
      (wholeText sign (digitsTo base n.natAbs) (n < 0) (m.precision.getD 0))

def capitals (t : Text) : Text :=
  t.map fun
    | .char c => .char c.toUpper
    | c => c

/-- A number in one of the styles with a precision. -/
def Mark.real (m : Mark) (style : Decimal.Style) (v : Value) : Option Text :=
  (realOf? v).map fun x =>
    m.lay true 0 (textOf (style.write m.long (m.precision.getD 6) x))

/-- A text, of which the precision leaves the first characters. -/
def Mark.part (m : Mark) (t : Text) : Text :=
  m.lay false 0 (match m.precision with
    | some n => t.take n
    | none => t)

/-- An argument as the last letter of a mark has it. -/
def Mark.write (m : Mark) (letter : Char) (v : Value) : Option Text :=
  if letter = 's' then some (m.part v.shown)
  else if letter = 'r' then some (m.part (Text.ofString v.nested))
  else if letter = 'a' then some (m.part (asciiText v.nested))
  else if letter = 'd' ∨ letter = 'i' ∨ letter = 'u' then
    (truncatedOf? v).map fun n =>
      m.lay true 0 (wholeText [] (Decimal.digits n.natAbs) (n < 0) (m.precision.getD 0))
  else if letter = 'o' then m.based 8 'o' v
  else if letter = 'x' then m.based 16 'x' v
  else if letter = 'X' then (m.based 16 'x' v).map capitals
  else if letter = 'f' then m.real .point v
  else if letter = 'e' then m.real .power v
  else if letter = 'g' then m.real .general v
  else if letter = 'F' then (m.real .point v).map capitals
  else if letter = 'E' then (m.real .power v).map capitals
  else if letter = 'G' then (m.real .general v).map capitals
  else if letter = 'c' then (characterOf? v).map fun c => m.lay false 0 [c]
  else none

/-! ## 3. Reading a pattern -/

/-- The arguments that are left, and the object whose fields may be named. -/
structure Supply where
  rest : List Value
  named : Option Fields

/-- The supply for a list of arguments. -/
def Supply.of : List Value → Supply
  | [.obj (f :: fs)] => ⟨[.obj (f :: fs)], some (f :: fs)⟩
  | args => ⟨args, none⟩

/-- The next argument. -/
def Supply.next? (s : Supply) : Option (Value × Supply) :=
  match s.rest with
  | v :: rest => some (v, { s with rest := rest })
  | [] => none

/-- Where in a mark a reader stands. -/
inductive Phase where
  | plain
  | begun
  /-- In a name, inside this many parentheses. -/
  | name (depth : Nat) (read : Text)
  | flags
  | width
  | widthEnd
  | point
  | precision
  | precisionEnd
  | size

/-- What a reader has written and has left. -/
structure Reader where
  out : Text
  supply : Supply
  mark : Mark
  phase : Phase

namespace Reader

/-- A reader at the beginning of a pattern. -/
def init (args : List Value) : Reader := ⟨[], .of args, .empty, .plain⟩

/-- Ends a mark at its last letter.  A named argument has to be used. -/
def close (r : Reader) (c : Char) : Option Reader :=
  r.supply.next?.bind fun (v, s) => (r.mark.write c v).bind fun text =>
    if s.named.isSome && ! s.rest.isEmpty then none
    else some ⟨r.out ++ text, s, .empty, .plain⟩

/-- Passes the letter for the size, or ends the mark. -/
def atSize (r : Reader) (c : Char) : Option Reader :=
  if c = 'h' ∨ c = 'l' ∨ c = 'L' then some { r with phase := .size } else r.close c

/-- Passes the point in front of a precision, or goes on. -/
def atPoint (r : Reader) (c : Char) : Option Reader :=
  if c = '.' then some { r with mark := { r.mark with precision := some 0 }, phase := .point }
  else r.atSize c

/-- The greatest width; there is no room for more. -/
def maxWidth : Nat := 1000000000

def maxPrecision : Nat := 2147483647

/-- Takes the width from the arguments; a negative one fills up behind. -/
def takeWidth (r : Reader) : Option Reader :=
  r.supply.next?.bind fun (v, s) => (wholeOf? v).bind fun n =>
    if maxWidth < n.natAbs then none
    else
      let mark := { r.mark with width := some n.natAbs, left := r.mark.left || n < 0 }
      some { r with supply := s, mark := mark, phase := .widthEnd }

/-- Takes the precision from the arguments; a negative one is zero. -/
def takePrecision (r : Reader) : Option Reader :=
  r.supply.next?.bind fun (v, s) => (wholeOf? v).bind fun n =>
    if maxPrecision < n.natAbs then none
    else some { r with
      supply := s, mark := { r.mark with precision := some n.toNat }, phase := .precisionEnd }

def addWidth (r : Reader) (c : Char) : Option Reader :=
  let n := 10 * r.mark.width.getD 0 + Decimal.digitValue c
  if maxWidth < n then none
  else some { r with mark := { r.mark with width := some n }, phase := .width }

def addPrecision (r : Reader) (c : Char) : Option Reader :=
  let n := 10 * r.mark.precision.getD 0 + Decimal.digitValue c
  if maxPrecision < n then none
  else some { r with mark := { r.mark with precision := some n }, phase := .precision }

/-- Notes a flag, or goes on to the width. -/
def atFlag (r : Reader) (c : Char) : Option Reader :=
  match r.mark.flag? c with
  | some m => some { r with mark := m, phase := .flags }
  | none =>
    if c = '*' then r.takeWidth
    else if Decimal.isDigit c then r.addWidth c
    else r.atPoint c

/-- Goes on in a name, and looks it up at its end. -/
def atName (r : Reader) (depth : Nat) (read : Text) (c : CodePoint) : Option Reader :=
  if c = .char ')' then
    match depth with
    | 0 =>
      (r.supply.named.bind (Fields.get? read)).map fun v =>
        { r with supply := { r.supply with rest := [v] }, phase := .flags }
    | depth + 1 => some { r with phase := .name depth (read ++ [c]) }
  else if c = .char '(' then some { r with phase := .name (depth + 1) (read ++ [c]) }
  else some { r with phase := .name depth (read ++ [c]) }

/-- One character of a pattern inside a mark, names aside. -/
def inMark (r : Reader) (c : Char) : Option Reader :=
  match r.phase with
  | .plain | .name _ _ => none
  | .begun =>
    if c = '%' then some { r with out := r.out ++ [.char '%'], phase := .plain }
    else if c = '(' then
      if r.supply.named.isSome then some { r with phase := .name 0 [] } else none
    else r.atFlag c
  | .flags => r.atFlag c
  | .width => if Decimal.isDigit c then r.addWidth c else r.atPoint c
  | .widthEnd => r.atPoint c
  | .point =>
    if c = '*' then r.takePrecision
    else if Decimal.isDigit c then r.addPrecision c
    else r.atSize c
  | .precision => if Decimal.isDigit c then r.addPrecision c else r.atSize c
  | .precisionEnd => r.atSize c
  | .size => r.close c

/-- One character of a pattern. -/
def step (r : Reader) (c : CodePoint) : Option Reader :=
  match r.phase with
  | .plain =>
    if c = .char '%' then some { r with phase := .begun, mark := .empty }
    else some { r with out := r.out ++ [c] }
  | .name depth read => r.atName depth read c
  | _ => c.toChar?.bind r.inMark

/-- The message, if the pattern is at its end and the arguments are used. -/
def finish? (r : Reader) : Option Text :=
  match r.phase with
  | .plain => if r.supply.named.isNone && ! r.supply.rest.isEmpty then none else some r.out
  | _ => none

end Reader

/-- Puts arguments in place of the marks of a pattern; `none` when they do not agree. -/
def fill (pattern : Text) (args : List Value) : Option Text :=
  (pattern.foldlM Reader.step (.init args)).bind Reader.finish?

end Tombola.Log
