import Tombola.Token.Cache
import Tombola.Decimal.Shortest
import Tombola.Decimal.Written
import Tombola.Text.Digit
/-!
# Times to live

A time to live is given in whole seconds or as a number with a fraction; as a text it may be
written in the digits of any script, with blanks around it and underscores between digits.
One that is zero or less is refused.

Instants are floating-point numbers.  Whole seconds beyond their range cannot be added to
one, and so every token that is fetched is lost: the calls that fetched it fail.
-/

namespace Tombola.Token

/-- A time to live as it was given: whole seconds or a number with a fraction. -/
inductive Ttl where
  | whole (seconds : Int)
  | real (seconds : Float)

namespace Ttl

/-! ## 1. Written times -/

/-- The text without underscores, each of which has to stand between two digits; `before` is
the character just before. -/
def ungrouped? (before : Char) : List Char → Option (List Char)
  | [] => if before = '_' then none else some []
  | c :: cs =>
    if c = '_' then (if Decimal.isDigit before then ungrouped? c cs else none)
    else if before = '_' ∧ Decimal.isDigit c = false then none
    else (ungrouped? c cs).map (c :: ·)

def ofText (s : String) : Except Failure Ttl :=
  let cs := Text.trim Text.isAsciiBlank (Text.plain s.toList)
  match (ungrouped? ' ' cs).bind Decimal.written? with
  | some x => .ok (.real x)
  | none => .error (.plain .value ("could not convert string to float: " ++ Text.quoted s))

def shown : Ttl → String
  | whole n => toString n
  | real x => Decimal.text x

def seconds : Ttl → Float
  | whole n =>
    if 0 ≤ n then Decimal.toFloat n.toNat 0 else -Decimal.toFloat n.natAbs 0
  | real x => x

/-- Refuses a time to live that is zero or less. -/
def check (t : Ttl) : Except ConfigFault Float :=
  if t.seconds ≤ 0 then .error (.nonPositiveTtl t.shown) else .ok t.seconds

/-! ## 2. Fetched tokens -/

/-- Whether the seconds are whole and beyond the range of floating-point numbers. -/
def isBeyond : Ttl → Bool
  | whole n => (whole n).seconds.isInf
  | real _ => false

/-- What becomes of a token that was fetched. -/
def outcome (t : Ttl) (token : Text) : Except Failure Text :=
  if t.isBeyond then .error (.plain .overflow "int too large to convert to float") else .ok token

/-- What happens in the cache when a fetch gives a token. -/
def fetched (t : Ttl) (token : Text) : Event Float :=
  match t.outcome token with
  | .ok token => .release token
  | .error f => .fail f

end Ttl

end Tombola.Token
