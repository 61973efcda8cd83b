import Tombola.Text.Blank
/-!
# Paths

A path is what it begins with, nothing or one slash or exactly two, and names with slashes
between.  Empty names and single points are passed over; two points are a name like any other
as long as the path is only written.
-/

namespace Tombola.Groups

/-- A path. -/
structure Path where
  root : String
  names : List String
  deriving DecidableEq, Repr

namespace Path

def parts (s : String) : List String :=
  (Text.pieces (· == '/') s.toList).map String.ofList

/-- What a text begins with: nothing, one slash or exactly two. -/
def rootOf (s : String) : String :=
  match s.toList with
  | '/' :: '/' :: '/' :: _ => "/"
  | '/' :: '/' :: _ => "//"
  | '/' :: _ => "/"
  | _ => ""

def ofString (s : String) : Path :=
  ⟨rootOf s, (parts s).filter fun p => p ≠ "" ∧ p ≠ "."⟩

def text (p : Path) : String :=
  if p.names = [] then (if p.root = "" then "." else p.root)
  else p.root ++ "/".intercalate p.names

def parent (p : Path) : Path := { p with names := p.names.dropLast }

/-- Whether a path does not depend on the working directory. -/
def isAbsolute (p : Path) : Bool := p.root ≠ ""

end Path

end Tombola.Groups
