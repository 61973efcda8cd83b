/-!
# Letter case

Names of log levels are compared in capitals and names of store backends in small letters.
The names are ASCII, so only the characters whose capital (small) form is ASCII can take
part in a match; every other character is kept as it is.
-/

namespace Tombola.Text

/-- The capital form of a character, where that is in ASCII. -/
def capital (c : Char) : List Char :=
  if 'a' ≤ c ∧ c ≤ 'z' then [c.toUpper]
  else match c with
    | 'ß' => ['S', 'S']
    | 'ı' => ['I']
    | 'ſ' => ['S']
    | 'ﬀ' => ['F', 'F']
    | 'ﬁ' => ['F', 'I']
    | 'ﬂ' => ['F', 'L']
    | 'ﬃ' => ['F', 'F', 'I']
    | 'ﬄ' => ['F', 'F', 'L']
    | 'ﬅ' => ['S', 'T']
    | 'ﬆ' => ['S', 'T']
    | c => [c]

def inCapitals (s : String) : String := String.ofList (s.toList.flatMap capital)

/-- The small form of a character, where that is in ASCII; the Kelvin sign is the one
character beyond ASCII that has one. -/
def small (c : Char) : Char := if c = '\u212A' then 'k' else c.toLower

def inSmall (s : String) : String := String.ofList (s.toList.map small)

end Tombola.Text
