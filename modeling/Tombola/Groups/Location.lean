import Tombola.Groups.Disk
import Tombola.Groups.Reference
/-!
# Where a table is kept

What names a table decides what opening it gives: the one shared table in a file, which is
made with its directory if it is not there; a table of one's own that is new on every
opening, for the empty name, `:memory:` and references to memory; or a failure.

The directory that is made is the parent of the text taken as a path, references included.
The file is looked for in another way: points are resolved in the text alone, and neither
the place nor a name may be too long.

A failed opening may leave directories on the disk, which count on the next one.  After an
opening that did not fail the next one finds the same again, so nothing is noted.

Main statements: `ofPath_memory`, the two paths without a file; `ofPath_eq_shared_iff`, the
paths with a table in a file; `ofPath_here`, the name of a file in the working directory.
-/

namespace Tombola.Groups

/-- What opening a table gives. -/
inductive Location where
  /-- The table in the file, the same on every opening. -/
  | shared
  /-- A table of one's own, empty on every opening. -/
  | fresh
  /-- No table; and what is left on the disk. -/
  | closed (f : Failure) (left : Disk)
  deriving Repr

namespace Location

/-! ## 1. Files -/

/-- The greatest number of octets in the text of a place. -/
def maxPlace : Nat := 511

/-- How many octets the text of a file's place leaves free, for files that stand beside it. -/
def spare : Nat := 8

/-- The greatest number of octets in the name of a file; its neighbours' names are longer. -/
def maxFileName : Nat := 247

/-- The number of octets in the text of a place. -/
def size (place : Place) : Nat := place.foldl (fun n name => n + 1 + name.utf8ByteSize) 0

/-- The place that a text leads to from another one; the names of both are given with the last
one first. -/
def lead (here : Place) : List String → Option Place
  | [] => some here
  | n :: ns =>
    if n = "" ∨ n = "." then lead here ns
    else if n = ".." then lead here.tail ns
    else if size (n :: here) ≤ maxPlace ∧ n.utf8ByteSize ≤ Disk.maxName then lead (n :: here) ns
    else none

/-- The place of a file. -/
def placeOf (d : Disk) (file : String) : Option Place :=
  (lead (if (Path.rootOf file) = "" then d.work.reverse else []) (Path.parts file)).map
    List.reverse

/-! ## 2. Opening -/

/-- The failure of a file that cannot be opened. -/
def cannotOpen : Failure := Reference.fault "unable to open database file"

/-- The failure of a table that cannot be written to. -/
def readOnly : Failure := Reference.fault "attempt to write a readonly database"

/-- The failure of a file whose octets cannot be read or written. -/
def unreadable : Failure := Reference.fault "disk I/O error"

/-- Why the file at a place cannot be opened as a table, if that is so. -/
def blocked? (d : Disk) (r : Reference) (place : Place) : Option Failure :=
  if size place < 2 ∨ maxPlace + 1 < size place + spare then some cannotOpen
  else match d.node? place with
    | some (.file f) => some f
    | some (.device f) => some (if r.access = .read ∨ r.immutable then readOnly else f)
    | some _ => some (if r.access = .read then unreadable else cannotOpen)
    | none =>
      match d.node? place.dropLast with
      | some .directory =>
        if r.access ≠ .create ∨ maxFileName < (place.getLastD "").utf8ByteSize then some cannotOpen
        else if r.immutable then some readOnly
        else none
      | _ => some cannotOpen

/-- What opening the table that a reference names gives. -/
def ofReference (d : Disk) (r : Reference) : Location :=
  if r.access = .memory then .fresh
  else if r.file = "" ∨ r.file = ":memory:" then
    if r.access = .read then .closed readOnly d else .fresh
  else if r.volatile then
    if r.access = .read ∨ r.immutable then .closed readOnly d else .fresh
  else match placeOf d r.file with
    | none => .closed cannotOpen d
    | some place =>
      match blocked? d r place with
      | some f => .closed f d
      | none => .shared

/-- The failure of a text with a zero in it. -/
def zeroInside : Failure := .plain .value "embedded null byte"

def hasZero (s : String) : Bool := s.toList.contains '\x00'

/-- What opening the table at a path gives. -/
def ofPath (d : Disk) (path : String) : Location :=
  let dir := (Path.ofString path).parent
  if hasZero dir.text then .closed zeroInside d
  else match d.make dir with
    | (some f, left) => .closed f left
    | (none, left) =>
      if hasZero path then .closed zeroInside left
      else match Reference.ofString path with
        | .error f => .closed f left
        | .ok r => ofReference left r

/-- The two paths without a file give a new table on every opening. -/
theorem ofPath_memory (d : Disk) : ofPath d "" = .fresh ∧ ofPath d ":memory:" = .fresh := by
  have h1 : (Path.ofString "").parent = ⟨"", []⟩ := by decide
  have h2 : (Path.ofString ":memory:").parent = ⟨"", []⟩ := by decide
  have h3 : hasZero (Path.text ⟨"", []⟩) = false := by decide
  have h4 : hasZero "" = false := by decide
  have h5 : hasZero ":memory:" = false := by decide
  have h6 : Reference.ofString "" = .ok ⟨"", .create, false, false⟩ :=
    Reference.ofString_plain (by decide)
  have h7 : Reference.ofString ":memory:" = .ok ⟨":memory:", .create, false, false⟩ :=
    Reference.ofString_plain (by decide)
  constructor
  · simp [ofPath, h1, h3, h4, h6, Disk.make_here, ofReference]
  · simp [ofPath, h2, h3, h5, h7, Disk.make_here, ofReference]

theorem ofReference_eq_shared_iff {d : Disk} {r : Reference} :
    ofReference d r = .shared ↔
      r.access ≠ .memory ∧ ¬ (r.file = "" ∨ r.file = ":memory:") ∧ r.volatile = false ∧
        ∃ place, placeOf d r.file = some place ∧ blocked? d r place = none := by
  unfold ofReference
  by_cases ha : r.access = .memory
  · simp [ha]
  · by_cases hf : r.file = "" ∨ r.file = ":memory:"
    · simp only [ha, hf, if_false, if_true]
      split <;> simp
    · by_cases hv : r.volatile = true
      · simp only [ha, hf, hv, if_false, if_true]
        split <;> simp
      · have hv' : r.volatile = false := by simpa using hv
        simp only [ha, hf, hv', if_false, Bool.false_eq_true]
        cases placeOf d r.file with
        | none => simp
        | some place => cases hb : blocked? d r place <;> simp [ha, hb]

/-- **The paths with a table in a file:** there is a directory for it, or it can be made, and
the reference names a file there that can be opened. -/
theorem ofPath_eq_shared_iff {d : Disk} {path : String} :
    ofPath d path = .shared ↔
      hasZero (Path.ofString path).parent.text = false ∧ hasZero path = false ∧
        ∃ left r, d.make (Path.ofString path).parent = (none, left) ∧
          Reference.ofString path = .ok r ∧ ofReference left r = .shared := by
  unfold ofPath
  by_cases hd : hasZero (Path.ofString path).parent.text = true
  · simp [hd]
  · simp only [hd]
    rcases hm : d.make (Path.ofString path).parent with ⟨_ | f, left⟩
    · by_cases hz : hasZero path = true
      · simp [hz]
      · cases hr : Reference.ofString path <;> simp [hz]
    · simp

/-- The name of a file in the working directory leads to the table there. -/
theorem ofPath_here {d : Disk} {name : String} (place : Place)
    (hdir : (Path.ofString name).parent = ⟨"", []⟩) (hz : hasZero name = false)
    (hr : "file:".toList.isPrefixOf name.toList = false) (hn : ¬ (name = "" ∨ name = ":memory:"))
    (hp : placeOf d name = some place)
    (hb : blocked? d ⟨name, .create, false, false⟩ place = none) :
    ofPath d name = .shared := by
  have hfile : ofReference d ⟨name, .create, false, false⟩ = .shared :=
    ofReference_eq_shared_iff.mpr ⟨nofun, hn, rfl, place, hp, hb⟩
  refine ofPath_eq_shared_iff.mpr ⟨?_, hz, d, _, ?_, Reference.ofString_plain hr, hfile⟩
  · rw [hdir]
    decide
  · rw [hdir]
    exact Disk.make_here d

end Location

end Tombola.Groups
