/-!
# Text without styles

Colours and the like are put into a text by control sequences: the escape character and a
bracket, then parameters (U+0030 to U+003F), then intermediate marks (the space to the
slash), then one final character (U+0040 to U+007E).  Output that is not for a terminal
leaves them out.

Main statement: `unstyled_of_plain`, a text without escape characters stays as it is.
-/

namespace Tombola.Text

/-- The character that begins a sequence. -/
def escapeMark : Char := '\x1b'

/-- Whether a character is a parameter of a sequence. -/
def isStyleParameter (c : Char) : Bool := '0' ≤ c && c ≤ '?'

/-- Whether a character is an intermediate mark of a sequence. -/
def isStyleMark (c : Char) : Bool := ' ' ≤ c && c ≤ '/'

/-- Whether a character ends a sequence. -/
def isStyleFinal (c : Char) : Bool := '@' ≤ c && c ≤ '~'

/-- The text without its sequences, where `held`, last character first, may be the beginning
of one.  Behind an intermediate mark there are no more parameters. -/
def unstyledFrom (held : List Char) : List Char → List Char
  | [] => held.reverse
  | c :: cs =>
    if c = escapeMark then held.reverse ++ unstyledFrom [c] cs
    else match held with
      | [] => c :: unstyledFrom [] cs
      | [_] =>
        if c = '[' then unstyledFrom (c :: held) cs else held.reverse ++ c :: unstyledFrom [] cs
      | last :: _ =>
        if isStyleMark c || (isStyleParameter c && ! isStyleMark last) then
          unstyledFrom (c :: held) cs
        else if isStyleFinal c then unstyledFrom [] cs
        else held.reverse ++ c :: unstyledFrom [] cs

/-- The text without its sequences. -/
def unstyled (s : String) : String := String.ofList (unstyledFrom [] s.toList)

theorem unstyledFrom_of_plain {cs : List Char} (h : escapeMark ∉ cs) : unstyledFrom [] cs = cs := by
  induction cs with
  | nil => rfl
  | cons c cs ih =>
    have hc : c ≠ escapeMark := fun e => h (e ▸ List.mem_cons_self ..)
    simp [unstyledFrom, hc, ih fun hm => h (List.mem_cons_of_mem _ hm)]

theorem unstyled_of_plain {s : String} (h : escapeMark ∉ s.toList) : unstyled s = s := by
  simp [unstyled, unstyledFrom_of_plain h]

end Tombola.Text
