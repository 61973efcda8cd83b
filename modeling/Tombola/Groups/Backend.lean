import Tombola.Groups.Memory
import Tombola.Groups.Table
import Tombola.Groups.Location
import Tombola.Text.Blank
import Tombola.Text.Letters
/-!
# Backends

The store of groups that the configuration asks for: in memory, or in a table at a path.
Calls on memory answer at once.  Calls on a table take time: where the deadline has passed
already they are carried out, but nobody waits for the reply.

Main statements: `ofName_eq_ok_iff`, the spellings of a backend; `store_table_shared`, what calls
come to on a table in a file.
-/

namespace Tombola.Groups

/-- The kinds of store. -/
inductive Backend where
  | memory
  | table (path : String)
  deriving DecidableEq, Repr

namespace Backend

/-- The name of a backend in small letters and without blanks around it. -/
def plain (name : String) : String := Text.inSmall (Text.trimmed Text.isBlank name)

/-- The backend with this name, without regard to letter case and blanks around it. -/
def ofName (name path : String) : Except ConfigFault Backend :=
  if plain name = "sqlite" then .ok (.table path)
  else if plain name = "memory" then .ok .memory
  else .error (.unknownBackend name)

/-- All that the stores hold, and the disk that tables are kept on. -/
structure Contents where
  memory : Memory
  table : Table
  disk : Disk

def Contents.empty (disk : Disk) : Contents := ⟨[], [], disk⟩

/-- A call on a table that is opened anew. -/
def onTable (place : Location) (partition : String) (c : Call) (s : Contents) :
    Answer c × Contents :=
  match place with
  | .shared =>
    let (a, t) := Table.store partition c s.table
    (a, { s with table := t })
  | .fresh => ((Table.store partition c []).1, s)
  | .closed f left => (.replied (.error f), { s with disk := left })

/-- The store of one partition.  With `late`, the deadline has passed. -/
def store (late : Bool) (partition : String) : Backend → Store Contents
  | .memory, c, s =>
    let (a, m) := Memory.store partition c s.memory
    (a, { s with memory := m })
  | .table path, c, s =>
    let (a, s') := onTable (Location.ofPath s.disk path) partition c s
    (if late then .abandoned else a, s')

theorem store_table_shared {path : String} {s : Contents}
    (h : Location.ofPath s.disk path = .shared) (p : String) (c : Call) :
    (Backend.table path).store false p c s =
      ((Table.store p c s.table).1, { s with table := (Table.store p c s.table).2 }) := by
  simp [store, h, onTable]

theorem ofName_eq_ok_iff {name path : String} {b : Backend} :
    ofName name path = .ok b ↔
      (plain name = "sqlite" ∧ b = .table path) ∨ (plain name = "memory" ∧ b = .memory) := by
  unfold ofName
  by_cases hs : plain name = "sqlite"
  · simp [hs, eq_comm]
  · by_cases hm : plain name = "memory"
    · simp [hm, eq_comm]
    · simp [hs, hm]

-- Letter case and blanks around the name make no difference.
example (path : String) : ofName "\tMemory " path = .ok .memory :=
  ofName_eq_ok_iff.mpr (.inr ⟨by decide, rfl⟩)

/-! ## Looking at what is there -/

/-- The groups of a partition with their options, or the first failure on the way. -/
def groups (partition : String) (b : Backend) (s : Contents) :
    Except Failure (List (String × List String)) × Contents :=
  let rec go : List String → List (String × List String) → Contents →
      Except Failure (List (String × List String)) × Contents
    | [], acc, s => (.ok acc.reverse, s)
    | g :: gs, acc, s =>
      match b.store false partition (.get g) s with
      | (.replied (.ok options), s') => go gs ((g, options) :: acc) s'
      | (.replied (.error f), s') => (.error f, s')
      | (.abandoned, s') => (.ok acc.reverse, s')
  match b.store false partition .list s with
  | (.replied (.ok names), s') => go names [] s'
  | (.replied (.error f), s') => (.error f, s')
  | (.abandoned, s') => (.ok [], s')

end Backend

end Tombola.Groups
