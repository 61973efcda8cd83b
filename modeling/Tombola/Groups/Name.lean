import Tombola.Error
/-!
# Names of groups

A group may have any name that the words of a command cannot take for something else: not
"help", and none that begins with a mark of flags and filters.

Main statement: `checkName_eq_ok_iff`, the names that are accepted.
-/

namespace Tombola.Groups

/-- The marks that flags and filters begin with. -/
def reservedMarks : List Char := ['/', '+', '-']

/-- Refuses the names that cannot be used for a group. -/
def checkName (name : String) : Except UsageFault Unit :=
  if name = "help" then .error .reservedName
  else match name.toList with
    | c :: _ => if reservedMarks.contains c then .error (.reservedMark name c) else .ok ()
    | [] => .ok ()

/-- A name that may be used for a group. -/
def GoodName (name : String) : Prop :=
  name ≠ "help" ∧ ∀ c ∈ name.toList.head?, c ∉ reservedMarks

/-- **The accepted names are the good ones.** -/
theorem checkName_eq_ok_iff {name : String} : checkName name = .ok () ↔ GoodName name := by
  unfold checkName GoodName
  split
  · simp_all
  · cases name.toList with
    | nil => simp_all
    | cons c cs => simp_all [reservedMarks]

instance (name : String) : Decidable (GoodName name) :=
  match h : checkName name with
  | .ok _ => .isTrue (checkName_eq_ok_iff.mp h)
  | .error _ => .isFalse fun hg => nomatch h.symm.trans (checkName_eq_ok_iff.mpr hg)

end Tombola.Groups
