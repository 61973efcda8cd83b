import Tombola.Proofs.Groups.Kept
/-!
# One partition by itself

What is known of the groups of a partition is kept without looking at the others, whose rows may
hold any text.  `Backend.Each p Q` says that all groups of the partition `p` satisfy `Q`, and
that a table holds them as their options are written.  A call keeps this if it only puts such
groups into the partition, whatever becomes of it.  Where the listing is answered, the store
answers for a map of such groups, and deletes them one by one.

A table at a path without a file is new on every opening.  It answers too, for the map with
nothing in it.

Main statements:

* `Backend.Each.call`: what a call keeps of a partition;
* `Backend.Each.serves`: what a partition whose listing is answered answers for.
-/

namespace Tombola.Groups

/-! ## 1. Stores that answer and delete -/

def Content.without (group : String) (groups : Content) : Content :=
  fun g => if g = group then none else groups g

/-- **The store answers for a map and deletes from it.** -/
structure Store.Serves {σ : Type} (store : Store σ) (s : σ) (names : List String)
    (groups : Content) : Prop extends store.Holds s names groups where
  delete : ∀ g, ∃ s' names', store (.delete g) s = (.replied (.ok (groups g).isSome), s') ∧
    store.Holds s' names' (groups.without g)

section Embed

variable {σ τ : Type} {inner : Store σ} {outer : Store τ} {e : σ → τ} {s : σ}
  {names : List String} {groups : Content}

/-- A store that works on a part of its state answers for what the part answers for. -/
theorem Store.Holds.embed (h : inner.Holds s names groups)
    (hcall : ∀ c s, outer c (e s) = ((inner c s).1, e (inner c s).2)) :
    outer.Holds (e s) names groups where
  list := by rw [hcall, h.list]
  mem_names := h.mem_names
  get g := by rw [hcall, h.get]

theorem Store.Serves.embed (h : inner.Serves s names groups)
    (hcall : ∀ c s, outer c (e s) = ((inner c s).1, e (inner c s).2)) :
    outer.Serves (e s) names groups where
  toHolds := h.toHolds.embed hcall
  delete g := by
    obtain ⟨s', names', hdel, hs'⟩ := h.delete g
    exact ⟨e s', names', by rw [hcall, hdel], hs'.embed hcall⟩

end Embed

/-! ## 2. Memory -/

/-- Memory answers for its ledgers and deletes from them. -/
theorem Memory.serves (p : String) (m : Memory) :
    (Memory.store p).Serves m (m.ledger p).sortedNames (m.content p) where
  toHolds := Memory.holds p m
  delete g := by
    have hc : (Memory.store p (.delete g) m).2.content p = (m.content p).without g := by
      funext g'
      simp only [Memory.content, Memory.store, ledger_update_self, Entries.get?_erase,
        Content.without]
    have hafter := Memory.holds p (Memory.store p (.delete g) m).2
    rw [hc] at hafter
    exact ⟨_, _, rfl, hafter⟩

/-! ## 3. Tables -/

namespace Table

variable {p q g : String} {t : Table}

/-- The groups of a partition, as far as their texts can be read. -/
def content (partition : String) (t : Table) : Content := fun g =>
  (t.row? partition g).bind fun r => (readOptions r.options).toOption

/-- Whether the rows of a partition hold the texts that options are written as. -/
def Written (partition : String) (t : Table) : Prop :=
  ∀ r ∈ t, r.partition = partition → ∃ options, r.options = writeOptions options

theorem of_row? {r : Row} (h : t.row? p g = some r) : r ∈ t ∧ r.partition = p ∧ r.name = g :=
  ⟨List.mem_of_find?_eq_some h, isOf_iff.mp (List.find?_some h)⟩

theorem content_of_row? {r : Row} {options : List String} (h : t.row? p g = some r)
    (ho : r.options = writeOptions options) : t.content p g = some options := by
  simp only [content, h, Option.bind_some, ho, readOptions_writeOptions]
  rfl

/-- A group of the partition has no row, or one that can be read. -/
theorem Written.cases (h : t.Written p) (g : String) :
    (t.row? p g = none ∧ t.content p g = none) ∨
      ∃ r options, t.row? p g = some r ∧ r.options = writeOptions options ∧
        t.content p g = some options := by
  cases hr : t.row? p g with
  | none => exact .inl ⟨rfl, by simp only [content, hr, Option.bind_none]⟩
  | some r =>
    obtain ⟨hmem, hp, -⟩ := of_row? hr
    obtain ⟨options, ho⟩ := h r hmem hp
    exact .inr ⟨r, options, rfl, ho, content_of_row? hr ho⟩

/-- **A table answers for a partition whose texts it has written.** -/
theorem holds (h : t.Written p) : (Table.store p).Holds t (t.names p) (t.content p) where
  list := rfl
  mem_names g := by
    rw [mem_names_iff]
    rcases h.cases g with ⟨hr, hc⟩ | ⟨r, options, hr, -, hc⟩
    · simp only [hr, hc, Option.isSome_none]
    · simp only [hr, hc, Option.isSome_some]
  get g := by
    have ho : t.options p g = .ok ((t.content p g).getD []) := by
      unfold options
      rcases h.cases g with ⟨hr, hc⟩ | ⟨r, options, hr, ho, hc⟩
      · simp only [hr, hc, Option.getD_none]
      · simp only [hr, hc, ho, readOptions_writeOptions, Option.getD_some]
    exact congrArg (fun r => (Answer.replied r, t)) ho

/-- A table answers for such a partition and deletes from it. -/
theorem serves (h : t.Written p) : (Table.store p).Serves t (t.names p) (t.content p) where
  toHolds := holds h
  delete g := by
    have hw : (t.remove p g).Written p := fun r hr => h r (List.mem_of_mem_filter hr)
    have hc : (t.remove p g).content p = (t.content p).without g := by
      funext g'
      simp only [content, Content.without, row?_remove, true_and, eq_comm (a := g)]
      split <;> rfl
    have hs : (t.row? p g).isSome = (t.content p g).isSome := by
      rw [Bool.eq_iff_iff, ← mem_names_iff, (holds h).mem_names]
    have hafter := holds hw
    rw [hc] at hafter
    refine ⟨t.remove p g, _, ?_, hafter⟩
    rw [← hs]
    rfl

/-- The rows after a call: those before it, and the one that the call puts. -/
theorem mem_store {c : Call} {r : Row} (h : r ∈ (Table.store q c t).2) :
    r ∈ t ∨ ∃ g options, c = .put g options ∧ r = ⟨q, g, writeOptions options⟩ := by
  cases c with
  | list => exact .inl h
  | get g => exact .inl h
  | delete g => exact .inl (List.mem_of_mem_filter h)
  | put g options =>
    have hrow : ∀ t : Table, r ∈ t.upsert ⟨q, g, writeOptions options⟩ →
        r ∈ t ∨ r = ⟨q, g, writeOptions options⟩ := by
      intro t ht
      induction t with
      | nil => exact .inr (List.mem_singleton.mp ht)
      | cons r' t ih =>
        unfold upsert at ht
        split at ht
        · rcases List.mem_cons.mp ht with rfl | hmem
          · exact .inr rfl
          · exact .inl (List.mem_cons_of_mem _ hmem)
        · rcases List.mem_cons.mp ht with rfl | hmem
          · exact .inl (List.mem_cons_self ..)
          · exact (ih hmem).imp_left (List.mem_cons_of_mem _)
    exact (hrow t h).imp_right fun hr => ⟨g, options, rfl, hr⟩

theorem IsWhole.call (h : t.IsWhole) (q : String) (c : Call) : (Table.store q c t).2.IsWhole := by
  intro r hr
  rcases mem_store hr with hold | ⟨g, options, -, rfl⟩
  · exact h r hold
  · exact isWhole_of_writeOptions rfl

end Table

/-! ## 4. Backends -/

namespace Backend

/-- **All groups of a partition** that a backend holds.  A table holds them as their options are
written. -/
def Each (partition : String) (Q : String → List String → Prop) : Backend → Contents → Prop
  | .memory, s => ∀ g options, s.memory.content partition g = some options → Q g options
  | .table _, s => ∀ r ∈ s.table, r.partition = partition →
      ∃ options, r.options = Table.writeOptions options ∧ Q r.name options

/-- Whether a backend holds no group of a partition. -/
def Vacant (partition : String) : Backend → Contents → Prop
  | .memory, s => ∀ g, s.memory.content partition g = none
  | .table _, s => ∀ r ∈ s.table, r.partition ≠ partition

variable {p q : String} {Q : String → List String → Prop} {b : Backend} {s : Contents}

theorem Vacant.each (h : b.Vacant p s) : b.Each p Q s := by
  cases b with
  | memory => exact fun g options hg => absurd hg (by rw [h g]; nofun)
  | table path => exact fun r hr hp => absurd hp (h r hr)

/-- **What a call keeps of a partition.**  The call may be on any partition, and nobody need wait
for it. -/
theorem Each.call {c : Call} (h : b.Each p Q s)
    (hput : ∀ g options, q = p → c = .put g options → Q g options) (late : Bool) :
    b.Each p Q (b.store late q c s).2 := by
  cases b with
  | memory =>
    intro g options hg
    by_cases hc : p = q ∧ c.Changes g
    · obtain ⟨rfl, hc⟩ := hc
      cases c with
      | list => exact hc.elim
      | get g' => exact hc.elim
      | put g' options' =>
        obtain rfl : g' = g := hc
        have ho : some options' = some options := by
          simpa [store, Memory.store, Memory.content, Memory.ledger_update_self,
            Entries.get?_put] using hg
        rw [← Option.some.inj ho]
        exact hput _ _ rfl rfl
      | delete g' =>
        obtain rfl : g' = g := hc
        simp [store, Memory.store, Memory.content, Memory.ledger_update_self,
          Entries.get?_erase] at hg
    · exact h g options ((Memory.content_store hc s.memory).symm.trans hg)
  | table path =>
    intro r hr hp
    simp only [store] at hr
    cases hloc : Location.ofPath s.disk path with
    | fresh => exact h r (by simpa [hloc, onTable] using hr) hp
    | closed f left => exact h r (by simpa [hloc, onTable] using hr) hp
    | shared =>
      rw [hloc] at hr
      rcases Table.mem_store hr with hold | ⟨g, options, hc, rfl⟩
      · exact h r hold hp
      · exact ⟨options, rfl, hput g options hp hc⟩

/-- A call on any backend keeps the table whole. -/
theorem isWhole_store (h : s.table.IsWhole) (b : Backend) (late : Bool) (q : String) (c : Call) :
    (b.store late q c s).2.table.IsWhole := by
  cases b with
  | memory => exact h
  | table path =>
    simp only [store]
    cases Location.ofPath s.disk path with
    | fresh | closed f left => exact h
    | shared => exact Table.IsWhole.call h q c

/-- A table that is new on every opening answers for nothing. -/
theorem serves_fresh {path : String} (h : Location.ofPath s.disk path = .fresh) :
    ((Backend.table path).store false p).Serves s [] fun _ => none := by
  have hh : ((Backend.table path).store false p).Holds s [] fun _ => none :=
    { list := by simp [store, h, onTable, Table.store, Table.names]
      mem_names := by simp
      get := by simp [store, h, onTable, Table.store, Table.options, Table.row?] }
  refine ⟨hh, fun g => ⟨s, [], ?_, ?_⟩⟩
  · simp [store, h, onTable, Table.store, Table.row?]
  · have hnone : Content.without g (fun _ => none) = fun _ => none := by
      funext g'
      simp [Content.without]
    rw [hnone]
    exact hh

/-- Whether a backend can be opened. -/
def IsOpen : Backend → Contents → Prop
  | .memory, _ => True
  | .table path, s => ∀ f left, Location.ofPath s.disk path ≠ .closed f left

/-- The groups of a partition, as a backend finds them on an opening. -/
def content (partition : String) : Backend → Contents → Content
  | .memory, s => s.memory.content partition
  | .table path, s =>
    match Location.ofPath s.disk path with
    | .shared => s.table.content partition
    | _ => fun _ => none

/-- A backend is open exactly if it answers a listing. -/
theorem isOpen_iff_list :
    b.IsOpen s ↔ ∃ names, (b.store false p .list s).1 = .replied (.ok names) := by
  cases b with
  | memory => exact iff_of_true trivial ⟨_, rfl⟩
  | table path =>
    simp only [IsOpen, store, Bool.false_eq_true, if_false]
    cases Location.ofPath s.disk path with
    | shared | fresh =>
      refine iff_of_true ?_ ⟨_, rfl⟩
      intro f left h
      cases h
    | closed f left =>
      refine iff_of_false (fun h => h f left rfl) ?_
      rintro ⟨names, h⟩
      cases h

theorem IsOpen.call (h : b.IsOpen s) (c : Call) (late : Bool) :
    b.IsOpen (b.store late q c s).2 := by
  cases b with
  | memory => trivial
  | table path =>
    simp only [IsOpen, store] at h ⊢
    cases hloc : Location.ofPath s.disk path with
    | shared | fresh =>
      simp only [onTable, hloc]
      intro f left h
      cases h
    | closed f left => exact absurd hloc (h f left)

/-- A backend has a property of all groups of each that it finds. -/
theorem Each.of_content (h : b.Each p Q s) {g : String} {options : List String}
    (hg : b.content p s g = some options) : Q g options := by
  cases b with
  | memory => exact h g options hg
  | table path =>
    unfold content at hg
    simp only at hg
    cases hloc : Location.ofPath s.disk path with
    | fresh | closed f left => simp [hloc] at hg
    | shared =>
      simp only [hloc] at hg
      obtain ⟨r, hr, -⟩ := Option.bind_eq_some_iff.mp hg
      obtain ⟨hmem, hp, rfl⟩ := Table.of_row? hr
      obtain ⟨options', ho', hQ⟩ := h r hmem hp
      rw [Table.content_of_row? hr ho'] at hg
      exact Option.some.inj hg ▸ hQ

/-- **A backend that is open answers for the groups that it finds.** -/
theorem Each.serves_content (h : b.Each p Q s) (ho : b.IsOpen s) :
    ∃ names, (b.store false p).Serves s names (b.content p s) := by
  cases b with
  | memory =>
    have hs : (Backend.memory.store false p).Serves s _ (s.memory.content p) :=
      (Memory.serves p s.memory).embed (e := fun m => { s with memory := m }) fun _ _ => rfl
    exact ⟨_, hs⟩
  | table path =>
    cases hloc : Location.ofPath s.disk path with
    | fresh =>
      have hc : (Backend.table path).content p s = fun _ => none := by simp only [content, hloc]
      rw [hc]
      exact ⟨_, serves_fresh hloc⟩
    | closed f left => exact absurd hloc (ho f left)
    | shared =>
      have hw : s.table.Written p := fun r hr hp => (h r hr hp).imp fun _ => And.left
      have hs : ((Backend.table path).store false p).Serves s _ (s.table.content p) :=
        (Table.serves hw).embed (e := fun t => { s with table := t }) fun c t =>
          store_table_shared (s := { s with table := t }) hloc p c
      have hc : (Backend.table path).content p s = s.table.content p := by
        simp only [content, hloc]
      rw [hc]
      exact ⟨_, hs⟩

/-- **What a partition answers for** when its listing is answered: a map of such groups. -/
theorem Each.serves {names : List String} (h : b.Each p Q s)
    (hlist : (b.store false p .list s).1 = .replied (.ok names)) :
    ∃ groups, (b.store false p).Serves s names groups ∧
      ∀ g options, groups g = some options → Q g options := by
  obtain ⟨names', hs⟩ := h.serves_content (isOpen_iff_list.mpr ⟨names, hlist⟩)
  rw [hs.list] at hlist
  obtain rfl := Except.ok.inj (Answer.replied.inj hlist)
  exact ⟨_, hs, fun _ _ => h.of_content⟩

end Backend

end Tombola.Groups
