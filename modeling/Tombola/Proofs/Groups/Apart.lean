import Tombola.Proofs.Groups.Opening
import Tombola.Proofs.Command.Calls
/-!
# Partitions stand apart

All partitions share one memory, one table and one disk.  A call on the store of a partition
sees its ledger and its rows, and changes nothing else; so what the store answers, and what
becomes of the partition, does not depend on what the others hold.  `Contents.SameIn` says that
two contents are the same for a partition: the same ledger, the same rows in the same order,
and openings of the table that come to the same.

* `Backend.store_apart`: a call on a partition leaves the contents the same for all others;
* `Backend.store_sameIn`: on contents that are the same for it, a call is answered alike, and
  leaves contents that are the same for it;
* `Dialogue.Guarded.runWith_like`: so does a whole dialogue, whichever of its calls fail, and with
  whatever failures that come to the same.
-/

namespace Tombola.Groups

/-! ## 1. The rows of a partition -/

namespace Table

variable {p q g : String} {c : Call} {r : Row} {t : Table}

/-- The rows of a partition, in their order. -/
def rowsOf (p : String) (t : Table) : Table := t.filter (·.partition = p)

theorem rowsOf_cons_of_eq (h : r.partition = p) : rowsOf p (r :: t) = r :: rowsOf p t :=
  List.filter_cons_of_pos (by simpa using h)

theorem rowsOf_cons_of_ne (h : r.partition ≠ p) : rowsOf p (r :: t) = rowsOf p t :=
  List.filter_cons_of_neg (by simpa using h)

theorem row?_rowsOf : (t.rowsOf p).row? p g = t.row? p g := by
  induction t with
  | nil => rfl
  | cons r t ih =>
    by_cases h : r.partition = p
    · rw [rowsOf_cons_of_eq h, row?_cons, row?_cons, ih]
    · rw [rowsOf_cons_of_ne h, row?_cons, if_neg fun e => h e.1, ih]

theorem names_rowsOf : (t.rowsOf p).names p = t.names p := by
  simp only [names, rowsOf, List.filter_filter, Bool.and_self]

theorem rowsOf_upsert_self : (t.upsert r).rowsOf r.partition = (t.rowsOf r.partition).upsert r := by
  induction t with
  | nil => exact rowsOf_cons_of_eq rfl
  | cons r' t ih =>
    by_cases hrow : r'.isOf r.partition r.name = true
    · obtain ⟨hp, -⟩ := isOf_iff.mp hrow
      rw [upsert, if_pos hrow, rowsOf_cons_of_eq rfl, rowsOf_cons_of_eq hp, upsert, if_pos hrow]
    · rw [upsert, if_neg hrow]
      by_cases hp : r'.partition = r.partition
      · rw [rowsOf_cons_of_eq hp, rowsOf_cons_of_eq hp, upsert, if_neg hrow, ih]
      · rw [rowsOf_cons_of_ne hp, rowsOf_cons_of_ne hp, ih]

theorem rowsOf_upsert_of_ne (h : r.partition ≠ p) : (t.upsert r).rowsOf p = t.rowsOf p := by
  induction t with
  | nil => exact rowsOf_cons_of_ne h
  | cons r' t ih =>
    by_cases hrow : r'.isOf r.partition r.name = true
    · obtain ⟨hp, -⟩ := isOf_iff.mp hrow
      rw [upsert, if_pos hrow, rowsOf_cons_of_ne h, rowsOf_cons_of_ne (hp ▸ h)]
    · rw [upsert, if_neg hrow]
      by_cases hp : r'.partition = p
      · rw [rowsOf_cons_of_eq hp, rowsOf_cons_of_eq hp, ih]
      · rw [rowsOf_cons_of_ne hp, rowsOf_cons_of_ne hp, ih]

theorem rowsOf_remove : (t.remove p g).rowsOf q = (t.rowsOf q).remove p g := by
  simp only [remove, rowsOf, List.filter_filter, Bool.and_comm]

theorem rowsOf_remove_of_ne (h : q ≠ p) : (t.remove p g).rowsOf q = t.rowsOf q := by
  rw [rowsOf_remove]
  refine List.filter_eq_self.mpr fun r hr => ?_
  have hq : r.partition = q := by simpa using (List.mem_filter.mp hr).2
  have hrow : ¬ r.isOf p g = true := fun e => h (hq.symm.trans (isOf_iff.mp e).1)
  simpa using hrow

/-- **A call works on the rows of its partition alone.** -/
theorem store_rowsOf :
    store p c (t.rowsOf p) = ((store p c t).1, (store p c t).2.rowsOf p) := by
  cases c with
  | list => simp only [store, names_rowsOf]
  | get g => simp only [store, options, row?_rowsOf]
  | put g options =>
    have hself := rowsOf_upsert_self (r := ⟨p, g, writeOptions options⟩) (t := t)
    simp only [store, ← hself]
  | delete g => simp only [store, row?_rowsOf, rowsOf_remove]

theorem rowsOf_store_of_ne (h : q ≠ p) : (store p c t).2.rowsOf q = t.rowsOf q := by
  cases c with
  | list => rfl
  | get g => rfl
  | put g options => exact rowsOf_upsert_of_ne h.symm
  | delete g => exact rowsOf_remove_of_ne h

end Table

/-! ## 2. The ledger of a partition -/

namespace Memory

variable {p q : String} {c : Call} {m m' : Memory}

/-- **A call works on the ledger of its partition alone.** -/
theorem store_ledger (h : m.ledger p = m'.ledger p) :
    (store p c m).1 = (store p c m').1 ∧ (store p c m).2.ledger p = (store p c m').2.ledger p := by
  cases c with
  | list | get g => exact ⟨by simp only [store, h], h⟩
  | put g options | delete g => simp only [store, h, ledger_update_self, and_self]

theorem ledger_store_of_ne (h : q ≠ p) : (store p c m).2.ledger q = m.ledger q := by
  cases c with
  | list | get g => rfl
  | put g options | delete g => exact ledger_update_of_ne _ _ h

end Memory

/-! ## 3. Contents that are the same for a partition -/

/-- Whether contents are the same for a partition, if the table is at a path. -/
structure Backend.Contents.SameIn (path p : String) (s s' : Backend.Contents) : Prop where
  ledger : s.memory.ledger p = s'.memory.ledger p
  rows : s.table.rowsOf p = s'.table.rowsOf p
  opening : (Location.ofPath s.disk path).Like (Location.ofPath s'.disk path)

namespace Backend.Contents.SameIn

variable {path p : String} {s s' s'' : Backend.Contents}

theorem refl (path p : String) (s : Backend.Contents) : s.SameIn path p s :=
  ⟨rfl, rfl, .refl _⟩

theorem symm (h : s.SameIn path p s') : s'.SameIn path p s :=
  ⟨h.ledger.symm, h.rows.symm, h.opening.symm⟩

theorem trans (h : s.SameIn path p s') (h' : s'.SameIn path p s'') : s.SameIn path p s'' :=
  ⟨h.ledger.trans h'.ledger, h.rows.trans h'.rows, h.opening.trans h'.opening⟩

end Backend.Contents.SameIn

/-- Whether two answers come to the same for a command. -/
inductive Answer.Like {c : Call} : Answer c → Answer c → Prop
  | same (a : Answer c) : Like a a
  | failed {f f' : Failure} (h : f.Like f') : Like (.replied (.error f)) (.replied (.error f'))

section Store

variable {path p q : String} {c : Call} {b : Backend} {s s' : Backend.Contents} {late : Bool}

/-- A backend that may have its table at a path, and nowhere else. -/
def Backend.IsAt (path : String) (b : Backend) : Prop := b = .memory ∨ b = .table path

theorem Backend.isAt_of_ofName {name : String} (h : Backend.ofName name path = .ok b) :
    b.IsAt path := by
  rcases Backend.ofName_eq_ok_iff.mp h with ⟨-, rfl⟩ | ⟨-, rfl⟩
  · exact .inr rfl
  · exact .inl rfl

theorem Backend.store_memory_eq : Backend.memory.store late p c s =
    ((Memory.store p c s.memory).1, { s with memory := (Memory.store p c s.memory).2 }) := rfl

theorem Backend.store_table_eq : (Backend.table path).store late p c s =
    (if late then .abandoned else (Backend.onTable (Location.ofPath s.disk path) p c s).1,
      (Backend.onTable (Location.ofPath s.disk path) p c s).2) := rfl

/-- A call leaves the opening of the table as it is, even if it fails. -/
theorem Backend.opening_store (hb : b.IsAt path) :
    (Location.ofPath s.disk path).Like (Location.ofPath (b.store late p c s).2.disk path) := by
  rcases hb with rfl | rfl
  · exact .refl _
  · simp only [Backend.store]
    cases hplace : Location.ofPath s.disk path with
    | shared | fresh =>
      simp only [Backend.onTable, hplace]
      exact .refl _
    | closed f left =>
      obtain ⟨f', hf, hagain⟩ := Location.ofPath_again hplace
      simp only [Backend.onTable, hagain]
      exact .closed hf

/-- **A call leaves the contents the same for all other partitions,** and one that reads does so
for its own. -/
theorem Backend.store_apart (hb : b.IsAt path) (h : q ≠ p ∨ c.isReading = true) :
    s.SameIn path q (b.store late p c s).2 := by
  have hledger : (Memory.store p c s.memory).2.ledger q = s.memory.ledger q := by
    rcases h with hne | hreading
    · exact Memory.ledger_store_of_ne hne
    · cases c with
      | list | get g => rfl
      | put g options | delete g => cases hreading
  have hrows : (Table.store p c s.table).2.rowsOf q = s.table.rowsOf q := by
    rcases h with hne | hreading
    · exact Table.rowsOf_store_of_ne hne
    · cases c with
      | list | get g => rfl
      | put g options | delete g => cases hreading
  refine ⟨?_, ?_, Backend.opening_store hb⟩
  · rcases hb with rfl | rfl
    · exact hledger.symm
    · simp only [Backend.store]
      cases Location.ofPath s.disk path <;> rfl
  · rcases hb with rfl | rfl
    · rfl
    · simp only [Backend.store]
      cases Location.ofPath s.disk path with
      | shared => exact hrows.symm
      | fresh | closed f left => rfl

theorem Backend.onTable_sameIn (h : s.SameIn path p s') :
    Answer.Like (Backend.onTable (Location.ofPath s.disk path) p c s).1
        (Backend.onTable (Location.ofPath s'.disk path) p c s').1 ∧
      (Backend.onTable (Location.ofPath s.disk path) p c s).2.memory.ledger p
        = (Backend.onTable (Location.ofPath s'.disk path) p c s').2.memory.ledger p ∧
      (Backend.onTable (Location.ofPath s.disk path) p c s).2.table.rowsOf p
        = (Backend.onTable (Location.ofPath s'.disk path) p c s').2.table.rowsOf p := by
  have hopening := h.opening
  revert hopening
  generalize Location.ofPath s.disk path = place, Location.ofPath s'.disk path = place'
  intro hopening
  cases hopening with
  | shared =>
    have hstore : ((Table.store p c s.table).1, (Table.store p c s.table).2.rowsOf p) =
        ((Table.store p c s'.table).1, (Table.store p c s'.table).2.rowsOf p) := by
      rw [← Table.store_rowsOf, ← Table.store_rowsOf, h.rows]
    obtain ⟨hanswer, hrows⟩ := Prod.mk.inj hstore
    refine ⟨?_, h.ledger, hrows⟩
    simp only [Backend.onTable, hanswer]
    exact .same _
  | fresh => exact ⟨.same _, h.ledger, h.rows⟩
  | closed hf => exact ⟨.failed hf, h.ledger, h.rows⟩

/-- **On contents that are the same for its partition, a call is answered alike,** and leaves
contents that are the same for it. -/
theorem Backend.store_sameIn (hb : b.IsAt path) (h : s.SameIn path p s') :
    Answer.Like (b.store late p c s).1 (b.store late p c s').1 ∧
      (b.store late p c s).2.SameIn path p (b.store late p c s').2 := by
  have hopening : (Location.ofPath (b.store late p c s).2.disk path).Like
      (Location.ofPath (b.store late p c s').2.disk path) :=
    (Backend.opening_store hb).symm.trans (h.opening.trans (Backend.opening_store hb))
  rcases hb with rfl | rfl
  · obtain ⟨hanswer, hledger⟩ := Memory.store_ledger (c := c) h.ledger
    rw [Backend.store_memory_eq, Backend.store_memory_eq] at hopening ⊢
    dsimp only at hopening ⊢
    refine ⟨?_, hledger, h.rows, hopening⟩
    rw [hanswer]
    exact .same _
  · obtain ⟨hanswer, hledger, hrows⟩ := Backend.onTable_sameIn (c := c) h
    rw [Backend.store_table_eq, Backend.store_table_eq] at hopening ⊢
    dsimp only at hopening ⊢
    refine ⟨?_, hledger, hrows, hopening⟩
    cases late with
    | true =>
      simp only [if_true]
      exact .same _
    | false =>
      simp only [Bool.false_eq_true, if_false]
      exact hanswer

end Store

/-! ## 4. Dialogues -/

/-- Whether the same calls fail, with failures that come to the same. -/
def Faults.Like (faults faults' : Faults) : Prop :=
  ∀ n c, Option.Rel Failure.Like (faults n c) (faults' n c)

theorem Faults.Like.refl (faults : Faults) : faults.Like faults := by
  intro n c
  cases faults n c with
  | none => exact .none
  | some f => exact .some (.inl rfl)

theorem Faults.Like.cases {faults faults' : Faults} (h : faults.Like faults') (n : Nat) (c : Call) :
    (faults n c = Option.none ∧ faults' n c = Option.none) ∨
      ∃ f f', faults n c = some f ∧ faults' n c = some f' ∧ f.Like f' := by
  have hrel := h n c
  generalize faults n c = x, faults' n c = x' at hrel ⊢
  cases hrel with
  | none => exact .inl ⟨rfl, rfl⟩
  | some hlike => exact .inr ⟨_, _, rfl, rfl, hlike⟩

namespace Dialogue

variable {α σ : Type} {may : Action → Call → Prop} {own : DrawError → Prop} {d : Drawing α}

/-- Whether two ends of a dialogue come to the same: they are one, or store errors, about which
the user is not told more. -/
inductive EndsLike : Option (Except DrawError α) → Option (Except DrawError α) → Prop
  | same (x : Option (Except DrawError α)) : EndsLike x x
  | store (text text' : String) :
    EndsLike (some (.error (.store text))) (some (.error (.store text')))

/-- Failures that come to the same for a command end it alike. -/
theorem endsLike_of_like {f f' : Failure} (h : f.Like f') (a : Action) :
    EndsLike (α := α) (some (.error (a.error f))) (some (.error (a.error f'))) := by
  rcases h with rfl | ⟨hf, hf'⟩
  · exact .same _
  · rw [a.error_of_not_ours hf, a.error_of_not_ours hf']
    exact .store _ _

/-- **Two runs that cannot be told apart.**  Let a relation be such that calls are answered alike on
related states and leave them related.  Then so does a guarded dialogue, if the same of its calls
fail in both runs, with failures that come to the same. -/
theorem Guarded.run_like (hd : d.Guarded may own) {store : Store σ} {R : σ → σ → Prop}
    (hR : ∀ c s s', R s s' → Answer.Like (store c s).1 (store c s').1 ∧
      R (store c s).2 (store c s').2) {faults faults' : Faults} (hf : faults.Like faults') (n : Nat)
    {s s' : σ} (hs : R s s') :
    EndsLike (d.run (faults.around store) (n, s)).1 (d.run (faults'.around store) (n, s')).1 ∧
      R (d.run (faults.around store) (n, s)).2.2 (d.run (faults'.around store) (n, s')).2.2 := by
  induction d generalizing n s s' with
  | done r => exact ⟨.same _, hs⟩
  | ask c k ih =>
    obtain ⟨a, -, hfail, hk, -⟩ := hd
    rcases hf.cases n c with ⟨hnone, hnone'⟩ | ⟨f, f', hsome, hsome', hlike⟩
    · simp only [run, Faults.around_of_none hnone, Faults.around_of_none hnone']
      obtain ⟨hanswer, hnext⟩ := hR c s s' hs
      generalize store c s = out, store c s' = out' at hanswer hnext ⊢
      obtain ⟨x, t⟩ := out
      obtain ⟨x', t'⟩ := out'
      cases hanswer with
      | failed hlike =>
        simp only [hfail, run]
        exact ⟨endsLike_of_like hlike a, hnext⟩
      | same =>
        rcases x with (f | r) | _
        · simp only [hfail, run]
          exact ⟨.same _, hnext⟩
        · exact ih (.ok r) (hk r) (n + 1) hnext
        · exact ⟨.same _, hnext⟩
    · simp only [run, Faults.around_of_some hsome, Faults.around_of_some hsome', hfail]
      exact ⟨endsLike_of_like hlike a, hs⟩

theorem Guarded.runWith_like (hd : d.Guarded may own) {store : Store σ} {R : σ → σ → Prop}
    (hR : ∀ c s s', R s s' → Answer.Like (store c s).1 (store c s').1 ∧
      R (store c s).2 (store c s').2) {faults faults' : Faults} (hf : faults.Like faults')
    {s s' : σ} (hs : R s s') :
    EndsLike (d.runWith faults store s).1 (d.runWith faults' store s').1 ∧
      R (d.runWith faults store s).2 (d.runWith faults' store s').2 :=
  hd.run_like hR hf 0 hs

end Dialogue

end Tombola.Groups
