import Tombola.Host.Joining
import Tombola.Host.Permitted
import Tombola.Host.Punycode
import Tombola.Text.Letters
/-!
# Labels

A host name consists of labels.  A label is a text of letters, digits and hyphens in composed
form; one that is not in ASCII is sent in an ASCII form with a mark in front.

Main statement: `ascii_length`, no label is sent that is longer than 63 characters.
-/

namespace Tombola.Host

/-! ## 1. Faults -/

/-- What is wrong with a host name. -/
inductive Fault where
  | emptyLabel
  | notComposed
  /-- The third and the fourth character are hyphens. -/
  | hyphens
  /-- The first or the last character is a hyphen. -/
  | outerHyphen
  | leadingMark
  /-- A joiner where none is allowed. -/
  | joiner (n position : Nat) (label : Text)
  /-- A character that is allowed in other places. -/
  | misplaced (n position : Nat) (label : Text)
  /-- A character that is allowed nowhere. -/
  | forbidden (n position : Nat) (label : Text)
  | directions (fault : DirectionFault)
  /-- Nothing follows the mark of an ASCII form. -/
  | noContent
  | endHyphen
  | undecodable
  | longLabel
  | emptyName
  | longName
  deriving DecidableEq, Repr

/-- The number of a character, in four hexadecimal digits or more. -/
def shownNumber (n : Nat) : String :=
  let width := if n < 0x10000 then 4 else if n < 0x100000 then 5 else 6
  "U+" ++ String.ofList ((Text.hexDigits width n).map Char.toUpper)

def Fault.message : Fault → String
  | emptyLabel => "Empty Label"
  | notComposed => "Label must be in Normalization Form C"
  | hyphens => "Label has disallowed hyphens in 3rd and 4th position"
  | outerHyphen => "Label must not start or end with a hyphen"
  | leadingMark => "Label begins with an illegal combining character"
  | joiner n position label =>
    "Joiner " ++ shownNumber n ++ " not allowed at position " ++ toString position ++ " in "
      ++ Text.quotedText label
  | misplaced n position label =>
    "Codepoint " ++ shownNumber n ++ " not allowed at position " ++ toString position ++ " in "
      ++ Text.quotedText label
  | forbidden n position label =>
    "Codepoint " ++ shownNumber n ++ " at position " ++ toString position ++ " of "
      ++ Text.quotedText label ++ " not allowed"
  | directions fault => fault.message
  | noContent => "Malformed A-label, no Punycode eligible content found"
  | endHyphen => "A-label must not end with a hyphen"
  | undecodable => "Invalid A-label"
  | longLabel => "Label too long"
  | emptyName => "Empty domain"
  | longName => "Domain too long"

/-! ## 2. Characters of a label -/

def greekRanges : Text.Ranges := #[
  (0x370, 0x373), (0x375, 0x377), (0x37A, 0x37D), (0x37F, 0x37F), (0x384, 0x384), (0x386, 0x386),
  (0x388, 0x38A), (0x38C, 0x38C), (0x38E, 0x3A1), (0x3A3, 0x3E1), (0x3F0, 0x3FF),
  (0x1D26, 0x1D2A), (0x1D5D, 0x1D61), (0x1D66, 0x1D6A), (0x1DBF, 0x1DBF), (0x1F00, 0x1FFE),
  (0x2126, 0x2126), (0xAB65, 0xAB65), (0x10140, 0x1018E), (0x101A0, 0x101A0), (0x1D200, 0x1D245)]

def hebrewRanges : Text.Ranges :=
  #[(0x591, 0x5C7), (0x5D0, 0x5EA), (0x5EF, 0x5F4), (0xFB1D, 0xFB4F)]

/-- The syllables and ideographs of Japanese. -/
def japaneseRanges : Text.Ranges := #[
  (0x2E80, 0x2FD5), (0x3005, 0x3005), (0x3007, 0x3007), (0x3021, 0x3029), (0x3038, 0x303B),
  (0x3041, 0x3096), (0x309D, 0x309F), (0x30A1, 0x30FA), (0x30FD, 0x30FF), (0x31F0, 0x31FF),
  (0x32D0, 0x32FE), (0x3300, 0x3357), (0x3400, 0x4DBF), (0x4E00, 0x9FFF), (0xF900, 0xFAD9),
  (0xFF66, 0xFF6F), (0xFF71, 0xFF9D), (0x16FE2, 0x16FE3), (0x16FF0, 0x16FF1), (0x1AFF0, 0x1AFFE),
  (0x1B000, 0x1B122), (0x1B150, 0x1B167), (0x1F200, 0x1F200), (0x20000, 0x3134A)]

/-- Whether a character that is not allowed everywhere may stand between two texts, the first
of which is given with the last character first. -/
def mayStand (n : Nat) (before behind : List Nat) : Bool :=
  if n = 0xB7 then before.head? = some 0x6C && behind.head? = some 0x6C
  else if n = 0x375 then behind.head?.any (Text.inRanges greekRanges)
  else if n = 0x5F3 ∨ n = 0x5F4 then before.head?.any (Text.inRanges hebrewRanges)
  else if n = 0x30FB then (before ++ behind).any (Text.inRanges japaneseRanges)
  else if 0x660 ≤ n ∧ n ≤ 0x669 then ! (before ++ behind).any fun m => 0x6F0 ≤ m && m ≤ 0x6F9
  else if 0x6F0 ≤ n ∧ n ≤ 0x6F9 then ! (before ++ behind).any fun m => 0x660 ≤ m && m ≤ 0x669
  else false

/-- Checks the characters of a label behind `before`, which is given with the last character
first. -/
def checkCharacters (label : Text) (before : List Nat) : List Nat → Except Fault Unit
  | [] => .ok ()
  | n :: ns =>
    if isAllowed n then checkCharacters label (n :: before) ns
    else if isJoiner n then
      if mayJoin n before ns then checkCharacters label (n :: before) ns
      else .error (.joiner n (before.length + 1) label)
    else if isPlaced n then
      if mayStand n before ns then checkCharacters label (n :: before) ns
      else .error (.misplaced n (before.length + 1) label)
    else .error (.forbidden n (before.length + 1) label)

/-! ## 3. Labels -/

def check (label : Text) : Except Fault Unit :=
  let ns := label.map CodePoint.toNat
  match ns with
  | [] => .error .emptyLabel
  | first :: _ =>
    if Text.composed ns ≠ ns then .error .notComposed
    else if (ns.drop 2).take 2 = [0x2D, 0x2D] then .error .hyphens
    else if first = 0x2D ∨ ns.getLast? = some 0x2D then .error .outerHyphen
    else if Text.inRanges markRanges first then .error .leadingMark
    else do
      checkCharacters label [] ns
      match checkDirections label with
      | .ok () => .ok ()
      | .error fault => .error (.directions fault)

/-- The greatest length of a label as it is sent. -/
def maxLabel : Nat := 63

/-- The mark in front of an ASCII form. -/
def asciiMark : List Char := "xn--".toList

/-- The label that is written in ASCII. -/
def labelOf (written : List Char) : Except Fault Text :=
  let cs := written.map Text.small
  if asciiMark.isPrefixOf cs then
    let rest := cs.drop asciiMark.length
    if rest = [] then .error .noContent
    else if rest.getLast? = some '-' then .error .endHyphen
    else match (Punycode.decode? rest).bind (·.mapM CodePoint.ofNat?) with
      | none => .error .undecodable
      | some label => do
        check label
        pure label
  else do
    check (cs.map .char)
    pure (cs.map .char)

/-- A label in the form in which it is sent, of whatever length. -/
def asciiForm (label : List Char) : Except Fault (List Char) :=
  if label.all (·.toNat < 128) then do
    let _ ← labelOf label
    pure label
  else do
    check (label.map .char)
    pure (asciiMark ++ Punycode.encode (label.map Char.toNat))

/-- What is sent for a label. -/
def ascii (label : List Char) : Except Fault (List Char) :=
  match asciiForm label with
  | .error fault => .error fault
  | .ok sent => if maxLabel < sent.length then .error .longLabel else .ok sent

/-- **No label is sent that is longer than 63 characters.** -/
theorem ascii_length {label sent : List Char} (h : ascii label = .ok sent) :
    sent.length ≤ maxLabel := by
  unfold ascii at h
  split at h
  · cases h
  · split at h
    · cases h
    · cases h
      omega

end Tombola.Host
