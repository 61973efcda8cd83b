import Mathlib.Data.List.Sort
import Tombola.Proofs.Groups.Kept
/-!
# Stores that answer alike

Calls on the stores of several partitions, one after another, are answered one by one
(`answers`).  A map from partitions and names to options says what each answer has to be
(`Saved.Tells`), and it leaves no choice: names that ascend are determined by which they are.
So any two families of stores that keep what is saved give the same answers to the same
calls, whatever they keep it in.

Main statements: `Keeps.tells`, stores that keep a map answer by it; `Saved.Tells.unique`,
there is one way to do so; `Backend.answers_alike`, groups in memory and groups in a file are
not told apart.
-/

namespace Tombola.Groups

/-! ## 1. Calls one after another -/

variable {σ : Type}

/-- The answers to calls on the stores of some partitions, each with its call. -/
def answers (stores : String → Store σ) : List (String × Call) → σ → List ((c : Call) × Answer c)
  | [], _ => []
  | (p, c) :: calls, s => ⟨c, (stores p c s).1⟩ :: answers stores calls (stores p c s).2

namespace Saved

/-- The map after a call on a partition. -/
def after (a : Saved) (partition : String) : Call → Saved
  | .list => a
  | .get _ => a
  | .put group options => a.set partition group (some options)
  | .delete group => a.set partition group none

/-- What a map has a call on a partition answered. -/
def Says (a : Saved) (partition : String) : (c : Call) → Answer c → Prop
  | .list, r => ∃ names : List String, r = .replied (.ok names) ∧ names.Pairwise (· < ·)
      ∧ ∀ g, g ∈ names ↔ (a partition g).isSome
  | .get group, r => r = .replied (.ok ((a partition group).getD []))
  | .put _ _, r => r = .replied (.ok ())
  | .delete group, r => r = .replied (.ok (a partition group).isSome)

/-- **What a map has calls answered**, one after another. -/
def Tells (a : Saved) : List (String × Call) → List ((c : Call) × Answer c) → Prop
  | [], rs => rs = []
  | (p, c) :: calls, rs =>
    ∃ r rest, rs = ⟨c, r⟩ :: rest ∧ a.Says p c r ∧ (a.after p c).Tells calls rest

variable {a : Saved}

/-- A map has a call answered in one way.  Names that ascend are the same if they are the
names of the same groups. -/
theorem Says.unique {p : String} {c : Call} {r r' : Answer c} (h : a.Says p c r)
    (h' : a.Says p c r') : r = r' := by
  cases c with
  | list =>
    obtain ⟨names, rfl, hn, hm⟩ := h
    obtain ⟨names', rfl, hn', hm'⟩ := h'
    have he : names = names' := hn.eq_of_mem_iff hn' fun g => (hm g).trans (hm' g).symm
    rw [he]
  | get g => exact h.trans h'.symm
  | put g options => exact h.trans h'.symm
  | delete g => exact h.trans h'.symm

/-- **A map has calls answered in one way.** -/
theorem Tells.unique {calls : List (String × Call)} {rs rs' : List ((c : Call) × Answer c)}
    (h : a.Tells calls rs) (h' : a.Tells calls rs') : rs = rs' := by
  induction calls generalizing a rs rs' with
  | nil => exact h.trans h'.symm
  | cons call calls ih =>
    obtain ⟨r, rest, rfl, hr, hrest⟩ := h
    obtain ⟨r', rest', rfl, hr', hrest'⟩ := h'
    rw [hr.unique hr', ih hrest hrest']

end Saved

/-! ## 2. Stores that keep a map -/

section Keeps

variable {stores : String → Store σ} {R : σ → Saved → Prop} {s : σ} {a : Saved}

/-- **One call** is answered as the map says, and leads to the map after it. -/
theorem Keeps.says (k : Keeps stores R) (hs : R s a) (p : String) (c : Call) :
    a.Says p c (stores p c s).1 ∧ R (stores p c s).2 (a.after p c) := by
  cases c with
  | list =>
    obtain ⟨names, hn, hh⟩ := k.holds hs p
    rw [hh.list]
    exact ⟨⟨names, rfl, hn, hh.mem_names⟩, hs⟩
  | get g =>
    obtain ⟨names, hn, hh⟩ := k.holds hs p
    rw [hh.get]
    exact ⟨rfl, hs⟩
  | put g options =>
    obtain ⟨s', hput, hR⟩ := k.put hs p g options
    rw [hput]
    exact ⟨rfl, hR⟩
  | delete g =>
    obtain ⟨s', hdel, hR⟩ := k.delete hs p g
    rw [hdel]
    exact ⟨rfl, hR⟩

/-- **Stores that keep a map answer by it.**  The induction is on the calls: an answer is what the
map says at that point, and the stores afterwards keep the map as the call changes it. -/
theorem Keeps.tells (k : Keeps stores R) (hs : R s a) (calls : List (String × Call)) :
    a.Tells calls (answers stores calls s) := by
  induction calls generalizing s a with
  | nil => rfl
  | cons call calls ih =>
    obtain ⟨p, c⟩ := call
    obtain ⟨hr, hs'⟩ := k.says hs p c
    exact ⟨_, _, rfl, hr, ih hs'⟩

/-- **Stores that keep the same map answer alike**, whatever they keep it in. -/
theorem Keeps.answers_eq {τ : Type} {stores' : String → Store τ} {R' : τ → Saved → Prop}
    {s' : τ} (k : Keeps stores R) (k' : Keeps stores' R') (hs : R s a) (hs' : R' s' a)
    (calls : List (String × Call)) : answers stores calls s = answers stores' calls s' :=
  (k.tells hs calls).unique (k'.tells hs' calls)

end Keeps

/-! ## 3. The backends -/

namespace Backend

/-- **A table in a file is not told apart from memory.**  If nothing is saved at the start, then the
same calls, in any partitions and however many, get the same answers from both: names in the order
of their code points, options as they were put, with their repetitions and in their order, and
whether a group was there.  The answers are those of a map from partitions and names to options. -/
theorem answers_alike {disk : Disk} {path : String} (h : (Backend.table path).Lasts disk)
    (calls : List (String × Call)) :
    let fromTable := answers ((Backend.table path).store false) calls (Contents.empty disk)
    let fromMemory := answers (Backend.memory.store false) calls (Contents.empty disk)
    fromTable = fromMemory ∧ Saved.nothing.Tells calls fromMemory := by
  intro fromTable fromMemory
  have kt := Backend.keeps h
  have km : Keeps (Backend.memory.store false) (Backend.memory.StandsFor disk) :=
    Backend.keeps trivial
  have hm := standsFor_empty disk .memory
  exact ⟨kt.answers_eq km (standsFor_empty disk (.table path)) hm calls, km.tells hm calls⟩

/-- Names beyond U+FFFF and below, which the code units of UTF-16 would put the other way
round; options with quotes, backslashes and control characters, and none at all. -/
theorem answers_alike_odd :
    let disk : Disk := ⟨[], []⟩
    let calls : List (String × Call) :=
      [("T1", .put "𝄞" ["\"", "\\", "\x00", ""]), ("T1", .put "～" []), ("T1", .list),
        ("T1", .get "𝄞"), ("T2", .get "～"), ("T1", .delete "～"), ("T1", .list)]
    (Backend.table "groups.db").Lasts disk
      ∧ answers ((Backend.table "groups.db").store false) calls (Contents.empty disk)
        = answers (Backend.memory.store false) calls (Contents.empty disk) := by
  intro disk calls
  have h : (Backend.table "groups.db").Lasts disk :=
    Location.ofPath_here ["groups.db"] (by decide) (by decide) (by decide) (by decide)
      (by decide) rfl
  exact ⟨h, (answers_alike h calls).1⟩

end Backend

end Tombola.Groups
