import Tombola.Error
import Tombola.Groups.Path
/-!
# The disk

What stands on the disk where a table could be kept: directories, directories in which nothing
can be made, files that are no tables, and devices.  A place is the list of the names that
lead to it from the root.  Making a directory makes those above it first; what was made before
something went wrong stays.

Main statements: `ensureOne_of_exists`, a directory that is there already is not made again;
`make_here`, the working directory is there.
-/

namespace Tombola.Groups

/-! ## 1. What is there -/

/-- Why a directory cannot be made. -/
inductive Refusal where
  | notPermitted
  | notThere
  | exists'
  | notADirectory
  | nameTooLong
  deriving DecidableEq, Repr

/-- The failure to make the directory at a path. -/
def Refusal.failure (path : String) : Refusal → Failure
  | notPermitted => .notPermitted path
  | notThere => .notThere path
  | exists' => .fileExists path
  | notADirectory => .notADirectory path
  | nameTooLong => .nameTooLong path

/-- What stands at a place. -/
inductive Node where
  | directory
  /-- A directory in which nothing can be made. -/
  | sealed' (refusal : Refusal)
  /-- A file that is no table, and what comes of taking it for one. -/
  | file (f : Failure)
  /-- A device, which can be read as an empty table, and what comes of writing to it. -/
  | device (f : Failure)
  deriving Repr

/-- The names that lead to a place from the root. -/
abbrev Place := List String

/-- What stands on the disk, and the place from which relative paths begin. -/
structure Disk where
  work : Place
  nodes : List (Place × Node)
  deriving Repr

namespace Disk

def node? (d : Disk) (place : Place) : Option Node :=
  if place = [] then some .directory else (d.nodes.find? (·.1 = place)).map (·.2)

def add (d : Disk) (place : Place) : Disk := { d with nodes := (place, .directory) :: d.nodes }

/-! ## 2. Going along a path -/

/-- The greatest number of octets in a name. -/
def maxName : Nat := 255

/-- The number of octets from which on a path is too long. -/
def pathLimit : Nat := 4096

/-- Where names lead from a directory.  Two points lead to the directory above. -/
def walk (d : Disk) (here : Place) : List String → Except Refusal Place
  | [] => .ok here
  | n :: ns =>
    if n = ".." then d.walk here.dropLast ns
    else if maxName < n.utf8ByteSize then .error .nameTooLong
    else match d.node? (here ++ [n]) with
      | none => .error .notThere
      | some (.file _) | some (.device _) => .error .notADirectory
      | some _ => d.walk (here ++ [n]) ns

/-- Where a path begins. -/
def start (d : Disk) (p : Path) : Place := if p.isAbsolute then [] else d.work

def isDirectory (d : Disk) (p : Path) : Bool := (d.walk (d.start p) p.names).toBool

/-! ## 3. Making directories -/

def makeOne (d : Disk) (p : Path) : Except Refusal Disk :=
  if pathLimit ≤ p.text.utf8ByteSize then .error .nameTooLong
  else match d.walk (d.start p) p.names.dropLast with
    | .error r => .error r
    | .ok here =>
      match p.names.getLast? with
      | none => .error .exists'
      | some n =>
        if n = ".." then .error .exists'
        else if maxName < n.utf8ByteSize then .error .nameTooLong
        else match d.node? (here ++ [n]), d.node? here with
          | some _, _ => .error .exists'
          | none, some (.sealed' r) => .error r
          | none, _ => .ok (d.add (here ++ [n]))

/-- Makes one directory unless it is there; and the failure if that does not work. -/
def ensureOne (d : Disk) (p : Path) : Option Failure × Disk :=
  match d.makeOne p with
  | .ok d' => (none, d')
  | .error r => if d.isDirectory p then (none, d) else (some (r.failure p.text), d)

/-- Makes the directory at the path with a root and names, the last name first, and those
above it. -/
def makeAll (root : String) : List String → Disk → Option Failure × Disk
  | [], d => d.ensureOne ⟨root, []⟩
  | n :: ns, d =>
    let p : Path := ⟨root, (n :: ns).reverse⟩
    match d.makeOne p with
    | .error .notThere =>
      match makeAll root ns d with
      | (some f, d') => (some f, d')
      | (none, d') => d'.ensureOne p
    | _ => d.ensureOne p

/-- Makes the directory at a path and those above it; and the failure if that does not
work. -/
def make (d : Disk) (p : Path) : Option Failure × Disk := makeAll p.root p.names.reverse d

theorem ensureOne_of_exists {d : Disk} {p : Path} (h : d.makeOne p = .error .exists')
    (hd : d.isDirectory p = true) : d.ensureOne p = (none, d) := by
  simp [ensureOne, h, hd]

/-- The working directory is there. -/
theorem make_here (d : Disk) : d.make ⟨"", []⟩ = (none, d) := by
  have h : d.makeOne ⟨"", []⟩ = .error .exists' := by
    have hl : ¬ pathLimit ≤ (Path.text ⟨"", []⟩).utf8ByteSize := by decide
    simp only [makeOne, if_neg hl, List.dropLast_nil, walk, List.getLast?_nil]
  exact ensureOne_of_exists h rfl

end Disk

end Tombola.Groups
