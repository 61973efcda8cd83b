import Tombola.Text.CodePoint
import Tombola.Text.Printable
/-!
# Quoted text

Messages quote names so that every name shows on one line: the quote is single unless the
text holds a single quote and no double one; a backslash, the chosen quote, newline, return
and tab are escaped by a letter, and any other character that is not printable by its
number in two, four or eight hexadecimal digits.

Main statement: `quoted_of_plain`, a text of plain printable characters is put between
single quotes as it stands.
-/

namespace Tombola.Text

/-! ## 1. Hexadecimal digits -/

/-- The lower-case hexadecimal digit of a number below sixteen. -/
def hexDigit (n : Nat) : Char :=
  if n < 10 then Char.ofNat (0x30 + n) else Char.ofNat (0x61 + (n - 10))

/-- The last `width` hexadecimal digits of `n`. -/
def hexDigits : Nat → Nat → List Char
  | 0, _ => []
  | width + 1, n => hexDigits width (n / 16) ++ [hexDigit (n % 16)]

/-! ## 2. Quoting -/

/-- The quote that goes around a text. -/
def quoteMark (t : Text) : Char :=
  if t.contains (.char '\'') && ! t.contains (.char '"') then '"' else '\''

/-- A code point by its number: two, four or eight digits, whichever is enough. -/
def numbered (n : Nat) : List Char :=
  if n < 0x100 then '\\' :: 'x' :: hexDigits 2 n
  else if n < 0x10000 then '\\' :: 'u' :: hexDigits 4 n
  else '\\' :: 'U' :: hexDigits 8 n

/-- How one code point is written between two marks `q`. -/
def escaped (q : Char) : CodePoint → List Char
  | .lone n => numbered (0xD800 + n.val)
  | .char c =>
    if c = q ∨ c = '\\' then ['\\', c]
    else if c = '\n' then ['\\', 'n']
    else if c = '\r' then ['\\', 'r']
    else if c = '\t' then ['\\', 't']
    else if isPrintable c then [c]
    else numbered c.toNat

def quotedText (t : Text) : String :=
  let q := quoteMark t
  String.ofList (q :: t.flatMap (escaped q) ++ [q])

def quoted (s : String) : String := quotedText (ofString s)

/-- **A plain text stands as it is.**  Without quotes, backslashes and unprintable
characters, quoting only adds the two single quotes. -/
theorem quoted_of_plain {s : String}
    (h : ∀ c ∈ s.toList, c ≠ '\'' ∧ c ≠ '\\' ∧ c ≠ '\n' ∧ c ≠ '\r' ∧ c ≠ '\t' ∧
      isPrintable c = true) :
    quoted s = String.ofList ('\'' :: s.toList ++ ['\'']) := by
  have hq : quoteMark (ofString s) = '\'' := by
    have : (ofString s).contains (.char '\'') = false := by
      simp only [ofString, List.contains_eq_mem, List.mem_map, CodePoint.char.injEq,
        exists_eq_right, decide_eq_false_iff_not]
      exact fun hm => (h _ hm).1 rfl
    simp only [quoteMark, this, Bool.false_and, Bool.false_eq_true, if_false]
  have hb : (ofString s).flatMap (escaped '\'') = s.toList := by
    unfold ofString
    generalize s.toList = cs at h
    induction cs with
    | nil => rfl
    | cons c cs ih =>
      obtain ⟨h1, h2, h3, h4, h5, h6⟩ := h c (by simp)
      simp only [List.map_cons, List.flatMap_cons, ih fun d hd => h d (by simp [hd])]
      simp [escaped, h1, h2, h3, h4, h5, h6]
  simp only [quoted, quotedText, hq, hb]

end Tombola.Text
