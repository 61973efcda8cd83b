import Tombola.Decimal.Digits
import Tombola.Json.Reader
import Tombola.Text.Blank
/-!
# Numeric addresses of hosts

A host may be named by its number: four numbers with points between, or eight groups of
hexadecimal digits with colons between.  Two colons stand for as many groups of zeros as are
missing, the last two groups may be written as four numbers, and the part of a network may be
named behind a percent sign.

Main statement: `looksLikeAddress4_of_isAddress4`, what is four numbers has the shape.
-/

namespace Tombola.Host

/-! ## 1. Four numbers -/

/-- A number from 0 to 255 in decimal, without zeros in front. -/
def isOctet (cs : List Char) : Bool :=
  cs.all Decimal.isDigit && 1 ≤ cs.length && cs.length ≤ 3
    && (cs.length == 1 || cs.head? ≠ some '0') && Decimal.value cs ≤ 255

/-- Whether a host has the shape of four numbers with points between. -/
def looksLikeAddress4 (cs : List Char) : Bool :=
  let ps := Text.pieces (· == '.') cs
  ps.length == 4 && ps.all fun p => ! p.isEmpty && p.all Decimal.isDigit

/-- Whether a host is four numbers with points between. -/
def isAddress4 (cs : List Char) : Bool :=
  let ps := Text.pieces (· == '.') cs
  ps.length == 4 && ps.all isOctet

/-- What is four numbers has the shape of four numbers. -/
theorem looksLikeAddress4_of_isAddress4 {cs : List Char} (h : isAddress4 cs = true) :
    looksLikeAddress4 cs = true := by
  simp only [isAddress4, looksLikeAddress4, Bool.and_eq_true, List.all_eq_true] at h ⊢
  refine ⟨h.1, fun p hp => ?_⟩
  have := h.2 p hp
  simp only [isOctet, Bool.and_eq_true, decide_eq_true_eq] at this
  cases p with
  | nil => simp at this
  | cons c cs => exact ⟨rfl, List.all_eq_true.mp this.1.1.1.1⟩

/-! ## 2. Eight groups -/

/-- Whether a text is one to four hexadecimal digits. -/
def isGroup (cs : List Char) : Bool :=
  1 ≤ cs.length && cs.length ≤ 4 && cs.all fun c => (Json.hexValue? (.char c)).isSome

/-- How many groups a text of groups with colons between stands for; the last two may be
written as four numbers. -/
def groupCount? (cs : List Char) : Option Nat :=
  if cs = [] then some 0
  else
    let gs := Text.pieces (· == ':') cs
    if gs.all isGroup then some gs.length
    else if gs.dropLast.all isGroup && isAddress4 (gs.getLastD []) then some (gs.length + 1)
    else none

/-- The parts before and behind the first double colon. -/
def splitGap? : List Char → Option (List Char × List Char)
  | ':' :: ':' :: rest => some ([], rest)
  | c :: rest => (splitGap? rest).map fun (l, r) => (c :: l, r)
  | [] => none

/-- Whether a text is eight groups, some of which a double colon may stand for. -/
def isGroups (cs : List Char) : Bool :=
  match splitGap? cs with
  | none => groupCount? cs == some 8
  | some (left, right) =>
    match groupCount? left, groupCount? right with
    | some m, some n => m + n ≤ 7 && ! left.contains '.'
    | _, _ => false

/-- Whether a text is eight groups, behind which the part of a network may be named. -/
def isAddress6 (cs : List Char) : Bool :=
  isGroups (cs.takeWhile (· ≠ '%')) &&
    match cs.dropWhile (· ≠ '%') with
    | [] => true
    | _ :: part => ! part.isEmpty && ! part.contains '%'

end Tombola.Host
