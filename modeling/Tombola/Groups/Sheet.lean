import Tombola.Groups.Table
/-!
# A table on a sheet

Between two runs of the program a table is kept as one JSON text: an array with an array of
partition, name and options for each row.

Main statement: `ofValue?_toValue`, what is kept is the table.
-/

namespace Tombola.Groups.Table

open Json

def rowValue (r : Row) : Value := .ofStrings [r.partition, r.name, r.options]

def rowOf? : Value → Option Row
  | .arr [.str p, .str n, .str o] => some ⟨p.shown, n.shown, o.shown⟩
  | _ => none

@[simp] theorem rowOf?_rowValue (r : Row) : rowOf? (rowValue r) = some r := by
  simp [rowOf?, rowValue, Value.ofStrings, Value.ofString]

def toValue (t : Table) : Value := .arr (t.map rowValue)

def ofValue? : Value → Option Table
  | .arr rows => rows.mapM rowOf?
  | _ => none

@[simp] theorem ofValue?_toValue (t : Table) : ofValue? (toValue t) = some t := by
  induction t with
  | nil => rfl
  | cons r t ih =>
    have h : (List.map rowValue t).mapM rowOf? = some t := ih
    simp [ofValue?, toValue, List.mapM_cons, h]

def toText (t : Table) : String := (toValue t).write

/-- The table that a text stands for; nothing is saved in an empty text. -/
def ofText? (s : String) : Option Table :=
  if s = "" then some []
  else match Json.read (Text.ofString s) with
    | .ok v => ofValue? v
    | .error _ => none

end Tombola.Groups.Table
