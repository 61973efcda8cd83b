import Mathlib.Data.String.Basic
import Tombola.Proofs.Groups.Content
import Tombola.Proofs.Json.RoundTrip
import Tombola.Proofs.Text.OctetOrder
/-!
# Stores keep what is saved

What is saved is a map from partitions and names to options.  A family of stores, one for
each partition, keeps it if every state that stands for a map answers for it, and if putting
and deleting lead to a state that stands for the changed map.

Both backends keep what is saved: memory in one ledger for each partition, a table in one row
for each group, with the options as JSON text.  What a state stands for says more than what
it answers: names occur once, and a row holds exactly the text that its options are written
as.

Main statements: `Memory.keeps`, `Table.keeps`; `Backend.keeps`, of the backends, with a table
in a file.
-/

namespace Tombola.Groups

/-! ## 1. What is saved -/

/-- The options of the groups of all partitions. -/
abbrev Saved := String → Content

namespace Saved

def nothing : Saved := fun _ _ => none

/-- The map with one group changed: other options, or none when it goes. -/
def set (a : Saved) (partition group : String) (options : Option (List String)) : Saved :=
  fun p g => if p = partition ∧ g = group then options else a p g

end Saved

/-- **The stores of all partitions keep what is saved.**  `StandsFor s a` says that the state
`s` stands for the map `a`. -/
structure Keeps {σ : Type} (stores : String → Store σ) (StandsFor : σ → Saved → Prop) :
    Prop where
  holds : ∀ {s a}, StandsFor s a → ∀ p,
    ∃ names, names.Pairwise (· < ·) ∧ (stores p).Holds s names (a p)
  put : ∀ {s a}, StandsFor s a → ∀ p g options,
    ∃ s', stores p (.put g options) s = (.replied (.ok ()), s') ∧
      StandsFor s' (a.set p g (some options))
  delete : ∀ {s a}, StandsFor s a → ∀ p g,
    ∃ s', stores p (.delete g) s = (.replied (.ok (a p g).isSome), s') ∧
      StandsFor s' (a.set p g none)

/-- A store that works on a part of its state keeps what the part keeps. -/
theorem Keeps.embed {σ τ : Type} {stores : String → Store σ} {R : σ → Saved → Prop}
    (k : Keeps stores R) {outer : String → Store τ} (Good : τ → Prop) (view : τ → σ)
    (replace : σ → τ → τ) (hview : ∀ x s, view (replace x s) = x)
    (hsame : ∀ s, replace (view s) s = s) (hgood : ∀ x s, Good s → Good (replace x s))
    (hcall : ∀ p c s, Good s →
      outer p c s = ((stores p c (view s)).1, replace (stores p c (view s)).2 s)) :
    Keeps outer fun s a => Good s ∧ R (view s) a where
  holds {s a} h p := by
    obtain ⟨names, hn, hh⟩ := k.holds h.2 p
    refine ⟨names, hn, ?_, hh.mem_names, ?_⟩
    · rw [hcall p _ s h.1, hh.list, hsame]
    · intro g
      rw [hcall p _ s h.1, hh.get, hsame]
  put {s a} h p g options := by
    obtain ⟨x, hx, hR⟩ := k.put h.2 p g options
    refine ⟨replace x s, ?_, hgood x s h.1, ?_⟩
    · rw [hcall p _ s h.1, hx]
    · rw [hview]
      exact hR
  delete {s a} h p g := by
    obtain ⟨x, hx, hR⟩ := k.delete h.2 p g
    refine ⟨replace x s, ?_, hgood x s h.1, ?_⟩
    · rw [hcall p _ s h.1, hx]
    · rw [hview]
      exact hR

/-- Different names, sorted by any test for their order, ascend. -/
theorem pairwise_lt_mergeSort {le : String → String → Bool} (hle : ∀ a b, le a b = true ↔ a ≤ b)
    {names : List String} (hn : names.Nodup) : (names.mergeSort le).Pairwise (· < ·) := by
  have hs : (names.mergeSort le).Pairwise fun a b => le a b = true := by
    refine List.pairwise_mergeSort ?_ ?_ names
    · intro a b c hab hbc
      exact (hle a c).mpr (le_trans ((hle a b).mp hab) ((hle b c).mp hbc))
    · intro a b
      simpa [hle] using le_total a b
  have hn' : (names.mergeSort le).Nodup := (List.mergeSort_perm names le).nodup_iff.mpr hn
  exact (hs.and hn').imp fun h => lt_of_le_of_ne ((hle _ _).mp h.1) h.2

/-! ## 2. Memory -/

namespace Memory

/-- A memory stands for what its ledgers hold, if no name occurs twice. -/
structure StandsFor (m : Memory) (a : Saved) : Prop where
  nodup : ∀ p, (m.ledger p).names.Nodup
  get? : ∀ p g, (m.ledger p).get? g = a p g

theorem sortedNames_pairwise {l : Ledger} (h : l.names.Nodup) :
    l.sortedNames.Pairwise (· < ·) :=
  pairwise_lt_mergeSort (fun _ _ => decide_eq_true_iff) h

theorem keeps : Keeps Memory.store StandsFor where
  holds {m a} h p := by
    refine ⟨_, sortedNames_pairwise (h.nodup p), ?_⟩
    have hc : m.content p = a p := funext (h.get? p)
    rw [← hc]
    exact Memory.holds p m
  put {m a} h p g options := by
    refine ⟨_, rfl, ?_, ?_⟩
    · intro q
      by_cases hq : q = p
      · rw [hq, ledger_update_self]
        exact Entries.nodup_names_put (h.nodup p)
      · rw [ledger_update_of_ne _ _ hq]
        exact h.nodup q
    · intro q g'
      by_cases hq : q = p
      · rw [hq, ledger_update_self, Entries.get?_put, h.get?]
        simp [Saved.set]
      · rw [ledger_update_of_ne _ _ hq, h.get?]
        simp [Saved.set, hq]
  delete {m a} h p g := by
    refine ⟨_, by rw [← h.get?]; rfl, ?_, ?_⟩
    · intro q
      by_cases hq : q = p
      · rw [hq, ledger_update_self]
        exact Entries.nodup_names_erase (h.nodup p)
      · rw [ledger_update_of_ne _ _ hq]
        exact h.nodup q
    · intro q g'
      by_cases hq : q = p
      · rw [hq, ledger_update_self, Entries.get?_erase, h.get?]
        simp [Saved.set]
      · rw [ledger_update_of_ne _ _ hq, h.get?]
        simp [Saved.set, hq]

end Memory

/-! ## 3. Tables -/

namespace Table

/-- **Options come back as they were written,** as texts and as strings. -/
theorem readTexts_writeOptions (options : List String) :
    readTexts (writeOptions options) = .ok (options.map Text.ofString) := by
  have hshown : Json.Value.shown ∘ Json.Value.ofString = Text.ofString := rfl
  unfold readTexts writeOptions
  simp only [maxDepth, Json.readWithin_write]
  simp only [Json.Value.ofStrings, Json.Value.items, List.map_map, hshown]

theorem readOptions_writeOptions (options : List String) :
    readOptions (writeOptions options) = .ok options := by
  have hshown : Text.shown ∘ Text.ofString = id := funext Text.shown_ofString
  rw [readOptions, readTexts_writeOptions, Except.map, List.map_map, hshown, List.map_id]

/-- What is written is whole. -/
theorem isWhole_of_writeOptions {r : Row} {options : List String}
    (h : r.options = writeOptions options) : r.IsWhole := by
  intro texts ht t hmem
  rw [h, readTexts_writeOptions] at ht
  obtain rfl := Except.ok.inj ht
  obtain ⟨s, -, rfl⟩ := List.mem_map.mp hmem
  exact ⟨s, rfl⟩

/-- A table stands for what its rows hold, if no group has two and each holds the text that
its options are written as. -/
structure StandsFor (t : Table) (a : Saved) : Prop where
  nodup : t.keys.Nodup
  row? : ∀ p g, t.row? p g = (a p g).map fun options => ⟨p, g, writeOptions options⟩

theorem names_pairwise {t : Table} (h : t.keys.Nodup) (p : String) :
    (t.names p).Pairwise (· < ·) := by
  refine pairwise_lt_mergeSort ?_ (nodup_partition h p)
  intro a b
  rw [decide_eq_true_iff, Utf8.encode_le_iff]

theorem keeps : Keeps Table.store StandsFor where
  holds {t a} h p := by
    refine ⟨_, names_pairwise h.nodup p, rfl, ?_, ?_⟩
    · intro g
      rw [mem_names_iff, h.row?, Option.isSome_map]
    · intro g
      have ho : t.options p g = .ok ((a p g).getD []) := by
        unfold options
        rw [h.row?]
        cases a p g with
        | none => rfl
        | some os => exact readOptions_writeOptions os
      exact congrArg (fun r => (Answer.replied r, t)) ho
  put {t a} h p g os := by
    refine ⟨_, rfl, nodup_keys_upsert h.nodup, ?_⟩
    intro q g'
    rw [row?_upsert, h.row?]
    by_cases hk : p = q ∧ g = g'
    · obtain ⟨rfl, rfl⟩ := hk
      simp [Saved.set]
    · have hk' : ¬ (q = p ∧ g' = g) := fun e => hk ⟨e.1.symm, e.2.symm⟩
      rw [if_neg hk, Saved.set, if_neg hk']
  delete {t a} h p g := by
    have hs : (t.row? p g).isSome = (a p g).isSome := by rw [h.row?, Option.isSome_map]
    refine ⟨t.remove p g, ?_, nodup_keys_remove h.nodup, ?_⟩
    · rw [← hs]
      rfl
    intro q g'
    rw [row?_remove, h.row?]
    by_cases hk : p = q ∧ g = g'
    · obtain ⟨rfl, rfl⟩ := hk
      simp [Saved.set]
    · have hk' : ¬ (q = p ∧ g' = g) := fun e => hk ⟨e.1.symm, e.2.symm⟩
      rw [if_neg hk, Saved.set, if_neg hk']

end Table

/-! ## 4. Backends -/

namespace Backend

/-- Whether a backend keeps its table, if it has one, in a file on the disk. -/
def Lasts (disk : Disk) : Backend → Prop
  | .memory => True
  | .table path => Location.ofPath disk path = .shared

/-- The contents of the stores stand for what the backend in use holds.  The disk stays as
it was at the start. -/
def StandsFor (disk : Disk) : Backend → Contents → Saved → Prop
  | .memory, s, a => s.disk = disk ∧ s.memory.StandsFor a
  | .table _, s, a => s.disk = disk ∧ s.table.StandsFor a

/-- **Every lasting backend keeps what is saved.** -/
theorem keeps {disk : Disk} {b : Backend} (hb : b.Lasts disk) :
    Keeps (b.store false) (b.StandsFor disk) := by
  cases b with
  | memory =>
    exact Memory.keeps.embed (fun s : Contents => s.disk = disk) Contents.memory
      (fun m s => { s with memory := m }) (fun _ _ => rfl) (fun _ => rfl) (fun _ _ h => h)
      (fun _ _ _ _ => rfl)
  | table path =>
    refine Table.keeps.embed (fun s : Contents => s.disk = disk) Contents.table
      (fun t s => { s with table := t }) (fun _ _ => rfl) (fun _ => rfl) (fun _ _ h => h) ?_
    intro p c s hs
    exact store_table_shared (by rw [hs]; exact hb) p c

theorem standsFor_empty (disk : Disk) (b : Backend) :
    b.StandsFor disk (Contents.empty disk) Saved.nothing := by
  cases b with
  | memory => exact ⟨rfl, fun _ => List.nodup_nil, fun _ _ => rfl⟩
  | table path => exact ⟨rfl, List.nodup_nil, fun _ _ => rfl⟩

end Backend

end Tombola.Groups
