import Tombola.Command.Shuffle
import Tombola.CommandLine.Invocation
import Tombola.Groups.Sheet
import Tombola.Log.Level
/-!
# The program

The outer layer of the command line: it collects the arguments, the variables, what is on the
disk and a seed, and writes what the invocation comes to.  There is no way from here to the
secret server, so every request to it fails.
-/

namespace Tombola.Program

def environment : IO (List (String × String)) := do
  try
    let text ← IO.FS.readFile "/proc/self/environ"
    return (text.splitOn "\x00").filterMap fun entry =>
      match entry.splitOn "=" with
      | name :: value@(_ :: _) => some (name, "=".intercalate value)
      | _ => none
  catch _ => return []

def file? (path : String) : IO (Option String) := do
  try return some (← IO.FS.readFile path)
  catch _ => return none

/-- Whether a path leads to a directory: only then can it be opened with a slash behind it. -/
def isDirectory (path : String) : IO Bool := do
  try
    discard <| IO.FS.Handle.mk (path ++ "/") .read
    return true
  catch _ => return false

/-- The place of the working directory. -/
def workPlace : IO Groups.Place := do
  return (Groups.Path.ofString (← IO.currentDir).toString).names

/-- All places on the way from one place to another below it, the last one included. -/
def onTheWay (start : Groups.Place) (names : List String) : List Groups.Place :=
  (List.range names.length).map fun i => start ++ names.take (i + 1)

/-- What stands at a place of the disk, unless it is the table itself. -/
def nodeAt? (table place : Groups.Place) : IO (Option (Groups.Place × Groups.Node)) := do
  let path := "/" ++ "/".intercalate place
  if ← isDirectory path then return some (place, .directory)
  else if place ≠ table && (← file? path).isSome then return some (place, .file .notADatabase)
  else return none

/-- What stands on the disk on the way to a path. -/
def diskFor (path : String) : IO Groups.Disk := do
  let work ← workPlace
  let p := Groups.Path.ofString path
  let table := if p.isAbsolute then p.names else work ++ p.names
  let places := onTheWay [] work ++ onTheWay [] table
  return ⟨work, ← places.filterMapM (nodeAt? table)⟩

/-- Writes to a file, and makes the directory that it lies in. -/
def writeFile (path text : String) : IO Unit := do
  IO.FS.createDirAll (Groups.Path.ofString path).parent.text
  IO.FS.writeFile path text

/-- A number below `n + 1` for each `n`. -/
def choices (seed : Nat) (n : Nat) : Nat := (mixHash (hash seed) (hash n)).toNat % (n + 1)

/-- What is said about an error that escapes. -/
def escaped (text : String) : CommandLine.Output := ⟨1, "", text ++ "\n"⟩

def outputOf : CommandLine.Ending → CommandLine.Output
  | .exited o => o
  | .unreadable faults =>
    escaped ("settings: " ++ ", ".intercalate (faults.map fun f => f.1 ++ " " ++ f.2.name))
  | .failed f => escaped f.text

def run (args : List String) : IO UInt32 := do
  let vars ← environment
  let sources : Settings.Sources := ⟨vars, ← file? ".env"⟩
  let path := ((Settings.read sources).toOption.map (·.appDb)).getD ""
  let table := ((← file? path).bind Groups.Table.ofText?).getD []
  let seed ← IO.rand 0 0xFFFFFFFF
  let unreachable : Vault.Exchange := .raised (.transport .connectError "no connection")
  let g : CommandLine.Setting :=
    ⟨sources, Command.Shuffle.drawn (choices seed),
      fun level => (Log.Config.make level none vars).map fun _ => ()⟩
  let (outcome, world) := CommandLine.invoke g args ⟨table, ← diskFor path, .init [unreachable]⟩
  if world.table ≠ table then
    writeFile path world.table.toText
  let output := outputOf outcome.ending
  IO.print output.out
  IO.eprint output.err
  return output.code.toUInt32

end Tombola.Program

def main (args : List String) : IO UInt32 := Tombola.Program.run args
