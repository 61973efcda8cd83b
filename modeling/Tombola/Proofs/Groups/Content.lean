import Tombola.Groups.Backend
/-!
# What a store holds

Seen from one partition a store is a map from names to options.  `Store.Holds` says that a
state answers for such a map: the names that it lists are the names of the map, and every
call for a group finds the options of the map, none for a name that is not there.  The calls
that ask leave the state alone.

What a command comes to is stated against the map, so it holds of groups in memory and of a
table alike.

Main statements: `Memory.holds`, memory answers for its ledgers; `Backend.entry_store`, a call
changes no entry but the one that it names, whatever becomes of it.
-/

namespace Tombola.Groups

/-- The options of the groups of one partition. -/
abbrev Content := String → Option (List String)

/-- **The store answers for a map.**  It lists `names` and finds the options of `groups`. -/
structure Store.Holds {σ : Type} (store : Store σ) (s : σ) (names : List String)
    (groups : Content) : Prop where
  list : store .list s = (.replied (.ok names), s)
  mem_names : ∀ g, g ∈ names ↔ (groups g).isSome
  get : ∀ g, store (.get g) s = (.replied (.ok ((groups g).getD [])), s)

/-! ## 1. Groups in memory -/

/-- The groups of a partition in memory. -/
def Memory.content (partition : String) (m : Memory) : Content := (m.ledger partition).get?

theorem Memory.holds (p : String) (m : Memory) :
    (Memory.store p).Holds m (m.ledger p).sortedNames (m.content p) where
  list := rfl
  mem_names g := by
    rw [Entries.sortedNames, List.mem_mergeSort, Entries.mem_names_iff, Memory.content]
  get _ := rfl

/-! ## 2. What a call leaves alone -/

/-- Whether a call is made to change a group. -/
def Call.Changes (group : String) : Call → Prop
  | .list => False
  | .get _ => False
  | .put g _ => g = group
  | .delete g => g = group

/-- What memory and the table hold of a group of a partition. -/
def Backend.Contents.entry (partition group : String) (s : Backend.Contents) :
    Option (List String) × Option Row :=
  (s.memory.content partition group, s.table.row? partition group)

section Others

variable {p q g : String} {c : Call}

theorem Memory.content_store (h : ¬ (q = p ∧ c.Changes g)) (m : Memory) :
    (Memory.store p c m).2.content q g = m.content q g := by
  cases c with
  | list => rfl
  | get g' => rfl
  | put g' options =>
    unfold Memory.content
    by_cases hq : q = p
    · have hg : g ≠ g' := fun e => h ⟨hq, e.symm⟩
      simp only [Memory.store, hq, ledger_update_self, Entries.get?_put, if_neg hg]
    · simp only [Memory.store, ledger_update_of_ne _ _ hq]
  | delete g' =>
    unfold Memory.content
    by_cases hq : q = p
    · have hg : g ≠ g' := fun e => h ⟨hq, e.symm⟩
      simp only [Memory.store, hq, ledger_update_self, Entries.get?_erase, if_neg hg]
    · simp only [Memory.store, ledger_update_of_ne _ _ hq]

/-- A call on a table leaves the rows of all other groups alone. -/
theorem Table.row?_store (h : ¬ (q = p ∧ c.Changes g)) (t : Table) :
    (Table.store p c t).2.row? q g = t.row? q g := by
  cases c with
  | list => rfl
  | get g' => rfl
  | put g' options =>
    have hne : ¬ (p = q ∧ g' = g) := fun e => h ⟨e.1.symm, e.2⟩
    simp only [Table.store, Table.row?_upsert, if_neg hne]
  | delete g' =>
    have hne : ¬ (p = q ∧ g' = g) := fun e => h ⟨e.1.symm, e.2⟩
    simp only [Table.store, Table.row?_remove, if_neg hne]

theorem Backend.entry_onTable (h : ¬ (q = p ∧ c.Changes g)) (place : Location)
    (s : Backend.Contents) : (Backend.onTable place p c s).2.entry q g = s.entry q g := by
  cases place with
  | shared => exact congrArg (s.memory.content q g, ·) (Table.row?_store h s.table)
  | fresh => rfl
  | closed f left => rfl

/-- **A call leaves all other groups alone**, also when it fails or nobody waits for it.  The late
call is the one whose answer nobody gets any more, although its work is done. -/
theorem Backend.entry_store (h : ¬ (q = p ∧ c.Changes g)) (b : Backend) (late : Bool)
    (s : Backend.Contents) : (b.store late p c s).2.entry q g = s.entry q g := by
  cases b with
  | memory => exact congrArg (·, s.table.row? q g) (Memory.content_store h s.memory)
  | table path =>
    simp only [Backend.store]
    exact Backend.entry_onTable h _ s

theorem Backend.entry_around (h : ¬ (q = p ∧ c.Changes g)) (b : Backend) (late : Bool)
    (faults : Faults) (n : Nat) (s : Backend.Contents) :
    (faults.around (b.store late p) c (n, s)).2.2.entry q g = s.entry q g := by
  cases hf : faults n c with
  | some f => rw [Faults.around_of_some hf]
  | none =>
    rw [Faults.around_of_none hf]
    exact Backend.entry_store h b late s

end Others

end Tombola.Groups
