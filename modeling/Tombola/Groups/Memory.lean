import Tombola.Groups.Entries
import Tombola.Groups.Dialogue
/-!
# Groups in memory

One ledger of groups for each partition.  A partition that nothing was saved in has an empty
ledger.

Main statement: `ledger_update_of_ne`, a call on one partition leaves the others alone.
-/

namespace Tombola.Groups

/-- The groups of one partition. -/
abbrev Ledger := Entries (List String)

/-- The groups of all partitions. -/
abbrev Memory := Entries Ledger

namespace Memory

def ledger (partition : String) (m : Memory) : Ledger := (m.get? partition).getD []

/-- Puts a ledger in place of a partition's ledger. -/
def update (partition : String) (l : Ledger) (m : Memory) : Memory := m.put partition l

theorem ledger_update_self (p : String) (l : Ledger) (m : Memory) :
    ledger p (update p l m) = l := by
  simp [ledger, update, Entries.get?_put]

theorem ledger_update_of_ne {p q : String} (l : Ledger) (m : Memory) (h : q ≠ p) :
    ledger q (update p l m) = ledger q m := by
  simp [ledger, update, Entries.get?_put, h]

def store (partition : String) : Store Memory
  | .list, m => (.replied (.ok (m.ledger partition).sortedNames), m)
  | .get g, m => (.replied (.ok (((m.ledger partition).get? g).getD [])), m)
  | .put g options, m =>
    (.replied (.ok ()), m.update partition ((m.ledger partition).put g options))
  | .delete g, m =>
    (.replied (.ok ((m.ledger partition).get? g).isSome),
      m.update partition ((m.ledger partition).erase g))

end Memory

end Tombola.Groups
