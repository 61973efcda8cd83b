import Tombola.Error
/-!
# Calls on a store of groups, and dialogues of calls

A command talks to the store of groups by four calls, all on one partition.  What it does is
a `Dialogue`: either it is done, or it asks the store something and goes on with the reply.
The dialogue fixes nothing about the store, so the same command runs against groups in
memory, against a table, against a store that fails, and between the calls of other users.

Main statements:

* `run_bind`: a dialogue followed by another runs as the two one after the other;
* `run_map`: a dialogue comes to the same on states that stand for each other;
* `run_attempt`: how a failing call ends a command.
-/

namespace Tombola.Groups

/-! ## 1. Calls -/

/-- A call on the store of one partition. -/
inductive Call where
  | list
  /-- The options of a group; none for a group that is not there. -/
  | get (group : String)
  /-- Saves options under a name, in place of a group that is there. -/
  | put (group : String) (options : List String)
  /-- Makes sure that a group is not there, and tells whether it was. -/
  | delete (group : String)
  deriving DecidableEq, Repr

/-- The type of the reply to a call. -/
abbrev Call.Reply : Call → Type
  | .list => List String
  | .get _ => List String
  | .put _ _ => Unit
  | .delete _ => Bool

/-- The methods of a store, without their arguments. -/
inductive Method where
  | list
  | get
  | put
  | delete
  deriving DecidableEq, Repr

def Call.method : Call → Method
  | .list => .list
  | .get _ => .get
  | .put _ _ => .put
  | .delete _ => .delete

/-- What comes of a call: a reply, a failure, or nothing because the caller gave up. -/
inductive Answer (c : Call) where
  | replied (r : Except Failure c.Reply)
  | abandoned

/-- A store as seen from one partition: it answers calls and changes its state. -/
abbrev Store (σ : Type) := (c : Call) → σ → Answer c × σ

/-! ## 2. Dialogues -/

/-- Calls on a store, each chosen after the replies to those before, and a result. -/
inductive Dialogue (α : Type) where
  | done (a : α)
  | ask (c : Call) (k : Except Failure c.Reply → Dialogue α)

namespace Dialogue

/-- One dialogue and then another. -/
def bind {α β : Type} : Dialogue α → (α → Dialogue β) → Dialogue β
  | .done a, f => f a
  | .ask c k, f => .ask c fun r => (k r).bind f

/-- Runs a dialogue against a store.  There is no result when a call is abandoned. -/
def run {α σ : Type} (store : Store σ) : Dialogue α → σ → Option α × σ
  | .done a, s => (some a, s)
  | .ask c k, s =>
    match store c s with
    | (.replied r, s') => (k r).run store s'
    | (.abandoned, s') => (none, s')

theorem run_bind {α β σ : Type} (store : Store σ) (d : Dialogue α) (f : α → Dialogue β)
    (s : σ) :
    (d.bind f).run store s =
      match d.run store s with
      | (some a, s') => (f a).run store s'
      | (none, s') => (none, s') := by
  induction d generalizing s with
  | done a => rfl
  | ask c k ih =>
    simp only [bind, run]
    split
    · rename_i r s' h
      exact ih r s'
    · rfl

/-- **Running along a map of states:** if a map takes the states of a store to those of another
that answers the same calls alike, then a dialogue comes to the same on both. -/
theorem run_map {α σ τ : Type} {store : Store σ} {store' : Store τ} {f : σ → τ}
    (h : ∀ c s, store' c (f s) = ((store c s).1, f (store c s).2)) (d : Dialogue α) (s : σ) :
    d.run store' (f s) = ((d.run store s).1, f (d.run store s).2) := by
  induction d generalizing s with
  | done a => rfl
  | ask c k ih =>
    simp only [run, h]
    rcases store c s with ⟨r | _, s'⟩
    · exact ih r s'
    · rfl

/-- A store that answers all calls lets every dialogue come to an end. -/
theorem exists_run_eq_some {α σ : Type} {store : Store σ}
    (h : ∀ c s, ∃ r, (store c s).1 = .replied r) (d : Dialogue α) (s : σ) :
    ∃ a s', d.run store s = (some a, s') := by
  induction d generalizing s with
  | done a => exact ⟨a, s, rfl⟩
  | ask c k ih =>
    obtain ⟨r, hr⟩ := h c s
    obtain ⟨a, s', ha⟩ := ih r (store c s).2
    refine ⟨a, s', ?_⟩
    rw [← ha, run]
    rcases hstore : store c s with ⟨_, s''⟩
    rw [hstore] at hr
    cases hr
    rfl

end Dialogue

/-! ## 3. Calls that may fail -/

/-- What a command is doing when it calls the store. -/
inductive Action where
  | listing
  | listingForSelection
  | getting (group : String)
  | gettingForSelection (group : String)
  | saving (group : String)
  | deleting (group : String)
  deriving DecidableEq, Repr

def Action.text : Action → String
  | listing => "listing groups"
  | listingForSelection => "listing groups for selection"
  | getting g => "getting group " ++ Text.quoted g
  | gettingForSelection g => "getting group " ++ Text.quoted g ++ " for selection"
  | saving g => "saving group " ++ Text.quoted g
  | deleting g => "deleting group " ++ Text.quoted g

/-- The error of a command whose call failed: one of ours passes through unchanged, any
other becomes a store error that names the action. -/
def Action.error (a : Action) : Failure → DrawError
  | .ours e => e
  | f => .store (a.text ++ ": " ++ f.text)

theorem Action.error_of_not_ours {f : Failure} (h : f.isOurs = false) (a : Action) :
    a.error f = .store (a.text ++ ": " ++ f.text) := by
  cases f <;> first | rfl | cases h

/-- What a command does: a dialogue that ends with a result or an error of ours. -/
abbrev Drawing (α : Type) := Dialogue (Except DrawError α)

/-- Makes a call and goes on with the reply; a failure ends the command. -/
def attempt {α : Type} (a : Action) (c : Call) (k : c.Reply → Drawing α) : Drawing α :=
  .ask c fun
    | .ok r => k r
    | .error f => .done (.error (a.error f))

/-- **How a call ends or continues a command.** -/
theorem run_attempt {α σ : Type} (store : Store σ) (a : Action) (c : Call)
    (k : c.Reply → Drawing α) (s : σ) :
    (attempt a c k).run store s =
      match store c s with
      | (.replied (.ok r), s') => (k r).run store s'
      | (.replied (.error f), s') => (some (.error (a.error f)), s')
      | (.abandoned, s') => (none, s') := by
  simp only [attempt, Dialogue.run]
  rcases store c s with ⟨(_ | _) | _, s'⟩ <;> rfl

/-! ## 4. Stores that fail -/

/-- Which calls of a command fail, and with what: a choice for each call, given how many
calls went before it. -/
abbrev Faults := Nat → Call → Option Failure

namespace Faults

def none : Faults := fun _ _ => Option.none

/-- Every call of some methods fails. -/
def ofMethods (fails : Method → Option Failure) : Faults := fun _ c => fails c.method

/-- A store some of whose calls fail instead of doing anything.  Its state counts the
calls. -/
def around {σ : Type} (faults : Faults) (store : Store σ) : Store (Nat × σ) :=
  fun c (n, s) =>
    match faults n c with
    | some f => (.replied (.error f), (n + 1, s))
    | Option.none =>
      let (a, s') := store c s
      (a, (n + 1, s'))

section Around

variable {σ : Type} {faults : Faults} {n : Nat} {c : Call}

theorem around_of_some {f : Failure} (h : faults n c = some f) (store : Store σ) (s : σ) :
    faults.around store c (n, s) = (.replied (.error f), (n + 1, s)) := by
  simp only [around, h]

theorem around_of_none (h : faults n c = Option.none) (store : Store σ) (s : σ) :
    faults.around store c (n, s) = ((store c s).1, (n + 1, (store c s).2)) := by
  simp only [around, h]

end Around

end Faults

/-- Runs a dialogue against a store some of whose calls fail. -/
def Dialogue.runWith {α σ : Type} (faults : Faults) (store : Store σ) (d : Dialogue α) (s : σ) :
    Option α × σ :=
  let (a, (_, s')) := d.run (faults.around store) (0, s)
  (a, s')

/-- Where no call fails, a dialogue runs as it would. -/
theorem Dialogue.runWith_none {α σ : Type} (store : Store σ) (d : Dialogue α) (s : σ) :
    d.runWith Faults.none store s = d.run store s := by
  have hsame : ∀ c (x : Nat × σ), store c x.2 =
      ((Faults.none.around store c x).1, (Faults.none.around store c x).2.2) := fun _ _ => rfl
  exact (d.run_map hsame (0, s)).symm

end Tombola.Groups
