import Tombola.Groups.Dialogue
import Tombola.Text.Utf8
/-!
# Groups in a table

All partitions share one table with a row for each group.  The options of a group are kept
as JSON text.  Names come out sorted by the octets of their UTF-8 form.

A row whose text was written by something else is read as it can be: the items of any array,
the names of any object and the characters of any string count as options, and a text that
is not JSON, or has no items, makes the call fail.

Options are strings.  An item of a row may be a text that is none, since JSON can name one half of
a surrogate pair; it is read with U+FFFD in that place, and no more is said about what becomes of
it.  `Row.IsWhole` says that a row has no such item.  All rows that are written here are whole.

Main statements:

* `row?_upsert`, `row?_remove`: what is found after a change;
* `nodup_keys_upsert`, `nodup_keys_remove`: a group keeps one row;
* `mem_names_iff`: the names that are listed;
* `Row.IsWhole.readTexts_eq`: a whole row is read without loss.
-/

namespace Tombola.Groups

/-- A row: a group of a partition with its options as JSON text. -/
structure Row where
  partition : String
  name : String
  options : String
  deriving DecidableEq, Repr

/-- The rows, at most one for each partition and name. -/
abbrev Table := List Row

def Row.isOf (partition name : String) (r : Row) : Bool :=
  r.partition = partition && r.name = name

namespace Table

def row? (partition name : String) (t : Table) : Option Row :=
  t.find? (Row.isOf partition name)

/-- Writes a row in place of the one with its partition and name. -/
def upsert (r : Row) : Table → Table
  | [] => [r]
  | r' :: rest => if Row.isOf r.partition r.name r' then r :: rest else r' :: upsert r rest

def remove (partition name : String) (t : Table) : Table :=
  t.filter (! Row.isOf partition name ·)

/-- The names in a partition, sorted by octets. -/
def names (partition : String) (t : Table) : List String :=
  ((t.filter (·.partition = partition)).map (·.name)).mergeSort
    fun a b => decide (Utf8.encode a ≤ Utf8.encode b)

/-- The text that options are kept as. -/
def writeOptions (options : List String) : String := (Json.Value.ofStrings options).write

/-- How deep the text of a row may be nested. -/
def maxDepth : Nat := 989

/-- The texts that the items of a stored text are shown as. -/
def readTexts (text : String) : Except Failure (List Text) :=
  let t := Text.ofString text
  match Json.readWithin maxDepth t with
  | .error fault => .error (.malformed t fault)
  | .ok v =>
    match v.items with
    | .error kind => .error (.itemless kind)
    | .ok items => .ok (items.map Json.Value.shown)

/-- The options that a stored text stands for. -/
def readOptions (text : String) : Except Failure (List String) :=
  (readTexts text).map (·.map Text.shown)

/-- The options of a group; none for a group that is not there. -/
def options (partition group : String) (t : Table) : Except Failure (List String) :=
  match t.row? partition group with
  | none => .ok []
  | some r => readOptions r.options

def store (partition : String) : Store Table
  | .list, t => (.replied (.ok (t.names partition)), t)
  | .get g, t => (.replied (t.options partition g), t)
  | .put g options, t =>
    (.replied (.ok ()), t.upsert ⟨partition, g, writeOptions options⟩)
  | .delete g, t => (.replied (.ok (t.row? partition g).isSome), t.remove partition g)

/-! ## Rows after a change -/

theorem isOf_iff {p g : String} {r : Row} : r.isOf p g = true ↔ r.partition = p ∧ r.name = g := by
  simp [Row.isOf]

theorem row?_cons (p g : String) (r : Row) (t : Table) :
    row? p g (r :: t) = if r.partition = p ∧ r.name = g then some r else row? p g t := by
  by_cases h : r.isOf p g = true
  · rw [if_pos (isOf_iff.mp h), row?, List.find?_cons_of_pos h]
  · rw [if_neg (mt isOf_iff.mpr h), row?, List.find?_cons_of_neg h, row?]

/-- **What is found after a row was written.** -/
theorem row?_upsert (p g : String) (r : Row) (t : Table) :
    row? p g (t.upsert r) =
      if r.partition = p ∧ r.name = g then some r else row? p g t := by
  induction t with
  | nil => exact row?_cons p g r []
  | cons r' t ih =>
    by_cases h' : r'.isOf r.partition r.name = true
    · obtain ⟨hp, hn⟩ := isOf_iff.mp h'
      rw [upsert, if_pos h', row?_cons, row?_cons, hp, hn]
      by_cases h : r.partition = p ∧ r.name = g
      · rw [if_pos h, if_pos h]
      · rw [if_neg h, if_neg h, if_neg h]
    · rw [upsert, if_neg h', row?_cons, row?_cons, ih]
      by_cases h : r.partition = p ∧ r.name = g
      · have hne : ¬ (r'.partition = p ∧ r'.name = g) := by
          rw [← h.1, ← h.2]
          exact mt isOf_iff.mpr h'
        rw [if_neg hne, if_pos h, if_pos h]
      · rw [if_neg h, if_neg h]

/-- **What is found after a row was taken away.** -/
theorem row?_remove (p g p' g' : String) (t : Table) :
    row? p g (t.remove p' g') = if p' = p ∧ g' = g then none else row? p g t := by
  induction t with
  | nil => simp [remove, row?]
  | cons r t ih =>
    have ht : row? p g (List.filter (! Row.isOf p' g' ·) t) = _ := ih
    by_cases h : r.isOf p' g' = true
    · obtain ⟨rfl, rfl⟩ := isOf_iff.mp h
      rw [remove, List.filter_cons_of_neg (by simp [h]), ht, row?_cons]
      by_cases hk : r.partition = p ∧ r.name = g
      · rw [if_pos hk, if_pos hk]
      · rw [if_neg hk, if_neg hk, if_neg hk]
    · rw [remove, List.filter_cons_of_pos (by simp [h]), row?_cons, ht, row?_cons]
      by_cases hk : p' = p ∧ g' = g
      · have hne : ¬ (r.partition = p ∧ r.name = g) := by
          rw [← hk.1, ← hk.2]
          exact mt isOf_iff.mpr h
        rw [if_neg hne, if_pos hk, if_pos hk]
      · rw [if_neg hk, if_neg hk]

/-- The groups of a table, each by its partition and name. -/
def keys (t : Table) : List (String × String) := t.map fun r => (r.partition, r.name)

theorem mem_keys_iff {p g : String} {t : Table} : (p, g) ∈ t.keys ↔ (t.row? p g).isSome := by
  induction t with
  | nil => simp [keys, row?]
  | cons r t ih =>
    have ih' : (p, g) ∈ List.map (fun r => (r.partition, r.name)) t ↔ (row? p g t).isSome := ih
    rw [row?_cons, keys, List.map_cons, List.mem_cons, ih', Prod.mk.injEq]
    by_cases h : r.partition = p ∧ r.name = g
    · simp [h]
    · have h' : ¬ (p = r.partition ∧ g = r.name) := fun e => h ⟨e.1.symm, e.2.symm⟩
      simp only [h, h', if_false, false_or]

theorem nodup_keys_upsert {r : Row} {t : Table} (h : t.keys.Nodup) : (t.upsert r).keys.Nodup := by
  induction t with
  | nil => simp [upsert, keys]
  | cons r' t ih =>
    obtain ⟨h1, h2⟩ := List.nodup_cons.mp h
    by_cases h' : r'.isOf r.partition r.name = true
    · obtain ⟨hp, hn⟩ := isOf_iff.mp h'
      rw [upsert, if_pos h']
      have hk : (r.partition, r.name) ∉ keys t := by
        rw [← hp, ← hn]
        exact h1
      exact List.nodup_cons.mpr ⟨hk, h2⟩
    · rw [upsert, if_neg h']
      refine List.nodup_cons.mpr ⟨?_, ih h2⟩
      intro hm
      have hm' : (r'.partition, r'.name) ∈ keys (upsert r t) := hm
      rw [mem_keys_iff, row?_upsert, if_neg fun e => h' (isOf_iff.mpr ⟨e.1.symm, e.2.symm⟩),
        ← mem_keys_iff] at hm'
      exact h1 hm'

theorem nodup_keys_remove {p g : String} {t : Table} (h : t.keys.Nodup) :
    (t.remove p g).keys.Nodup :=
  List.Pairwise.sublist (List.filter_sublist.map _) h

/-- **The names that are listed** are those of the partition's rows. -/
theorem mem_names_iff {p g : String} {t : Table} : g ∈ t.names p ↔ (t.row? p g).isSome := by
  rw [← mem_keys_iff, names, List.mem_mergeSort]
  simp only [keys, List.mem_map, List.mem_filter, decide_eq_true_eq, Prod.mk.injEq]
  constructor
  · rintro ⟨r, ⟨hr, hp⟩, hg⟩
    exact ⟨r, hr, hp, hg⟩
  · rintro ⟨r, hr, hp, hg⟩
    exact ⟨r, ⟨hr, hp⟩, hg⟩

theorem nodup_partition {t : Table} (h : t.keys.Nodup) (p : String) :
    ((t.filter (·.partition = p)).map (·.name)).Nodup := by
  have hf : ((t.filter (·.partition = p)).map fun r => (r.partition, r.name)).Nodup :=
    List.Pairwise.sublist (List.filter_sublist.map _) h
  have hk : (t.filter (·.partition = p)).map (fun r => (r.partition, r.name)) =
      ((t.filter (·.partition = p)).map (·.name)).map fun n => (p, n) := by
    rw [List.map_map]
    refine List.map_congr_left fun r hr => ?_
    have hp : r.partition = p := by simpa using (List.mem_filter.mp hr).2
    simp [hp]
  rw [hk] at hf
  exact List.Pairwise.of_map _ (fun a b hab e => hab (by rw [e])) hf

end Table

/-! ## Rows without lone surrogates -/

/-- **Whether a row is whole:** all items that are read of it are strings. -/
def Row.IsWhole (r : Row) : Prop :=
  ∀ texts, Table.readTexts r.options = .ok texts → ∀ t ∈ texts, ∃ s, t = Text.ofString s

/-- **A whole row is read without loss.** -/
theorem Row.IsWhole.readTexts_eq {r : Row} (h : r.IsWhole) {options : List String}
    (ho : Table.readOptions r.options = .ok options) :
    Table.readTexts r.options = .ok (options.map Text.ofString) := by
  unfold Table.readOptions at ho
  cases ht : Table.readTexts r.options with
  | error f =>
    rw [ht] at ho
    cases ho
  | ok texts =>
    rw [ht] at ho
    obtain rfl := Except.ok.inj ho
    rw [List.map_map]
    refine congrArg Except.ok ((List.map_id texts).symm.trans (List.map_congr_left ?_))
    intro t hmem
    obtain ⟨s, rfl⟩ := h texts ht t hmem
    simp

/-- Whether all rows of a table are whole. -/
def Table.IsWhole (t : Table) : Prop := ∀ r ∈ t, r.IsWhole

end Tombola.Groups
