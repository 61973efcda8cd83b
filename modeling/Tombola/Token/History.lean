import Tombola.Error
/-!
# What happens to calls for the token

A call for the token is known by its number: how many calls were made before it.  A history
is the list of all that happened to the calls of a run, in order: calls are made, fetch, get
a token and end, and now and then a new loop begins.  What a state of affairs means is said
in terms of its history.

Main statements: `pending_called`, `pending_ended`, `pending_looped`, who waits after each
note; `lastFetch_eq_some_iff`, which fetch is the last one that succeeded.
-/

namespace Tombola.Token

/-- A call as it is made. -/
structure Waiter where
  id : String
  /-- Whether the caller set a time limit. -/
  bounded : Bool
  deriving DecidableEq, Repr

/-- A call that was made. -/
structure Ticket extends Waiter where
  /-- How many calls were made before it. -/
  number : Nat
  deriving DecidableEq, Repr

/-- How a call ended. -/
inductive Outcome where
  | served (token : Text)
  | failed (f : Failure)
  | cancelled
  | timedOut
  deriving Repr

/-- Something that happened. -/
inductive Note (τ : Type) where
  | called (t : Ticket)
  | asked (t : Ticket)
  /-- A call got a token from its fetch, at an instant. -/
  | fetched (t : Ticket) (token : Text) (now : τ)
  /-- A call ended, at an instant. -/
  | ended (t : Ticket) (o : Outcome) (now : τ)
  | looped
  deriving Repr

/-- What happened in a run, in order. -/
abbrev History (τ : Type) := List (Note τ)

namespace History

variable {τ : Type}

/-- The calls that wait after one more note. -/
def pendingAfter (waiting : List Ticket) : Note τ → List Ticket
  | .called t => waiting ++ [t]
  | .ended t _ _ => waiting.filter (· ≠ t)
  | .looped => []
  | _ => waiting

/-- The calls of the loop that were made and have not ended, in the order in which they were
made. -/
def pending (h : History τ) : List Ticket := h.foldl pendingAfter []

/-- The token of a fetch that succeeded, and the instant at which it did. -/
def fetch? : Note τ → Option (Text × τ)
  | .fetched _ token now => some (token, now)
  | _ => none

/-- The token of the fetch that succeeded last, and the instant at which it did. -/
def lastFetch (h : History τ) : Option (Text × τ) := h.reverse.findSome? fetch?

def started (h : History τ) : Nat :=
  h.countP fun
    | .asked _ => true
    | _ => false

/-- The calls of the loop that have ended, after one more note. -/
def endedAfter (ended : List (String × Outcome)) : Note τ → List (String × Outcome)
  | .ended t o _ => ended ++ [(t.id, o)]
  | .looped => []
  | _ => ended

/-- The calls of the loop that have ended, in order. -/
def ended (h : History τ) : List (String × Outcome) := h.foldl endedAfter []

@[simp] theorem pending_nil : pending ([] : History τ) = [] := rfl

@[simp] theorem pending_called (h : History τ) (t : Ticket) :
    pending (h ++ [.called t]) = pending h ++ [t] := by
  simp [pending, pendingAfter]

@[simp] theorem pending_asked (h : History τ) (t : Ticket) :
    pending (h ++ [.asked t]) = pending h := by
  simp [pending, pendingAfter]

@[simp] theorem pending_fetched (h : History τ) (t : Ticket) (token : Text) (now : τ) :
    pending (h ++ [.fetched t token now]) = pending h := by
  simp [pending, pendingAfter]

@[simp] theorem pending_ended (h : History τ) (t : Ticket) (o : Outcome) (now : τ) :
    pending (h ++ [.ended t o now]) = (pending h).filter (· ≠ t) := by
  simp [pending, pendingAfter]

@[simp] theorem pending_looped (h : History τ) : pending (h ++ [.looped]) = [] := by
  simp [pending, pendingAfter]

@[simp] theorem lastFetch_nil : lastFetch ([] : History τ) = none := rfl

/-- What is noted last counts, if it is that a fetch succeeded. -/
@[simp] theorem lastFetch_snoc (h : History τ) (n : Note τ) :
    lastFetch (h ++ [n]) = (fetch? n).or (lastFetch h) := by
  cases hn : fetch? n <;> simp [lastFetch, hn]

theorem fetch?_eq_some_iff {n : Note τ} {token : Text} {now : τ} :
    fetch? n = some (token, now) ↔ ∃ t, n = .fetched t token now := by
  cases n <;> simp [fetch?]

theorem fetch?_eq_none_iff {n : Note τ} :
    fetch? n = none ↔ ∀ t token now, n ≠ .fetched t token now := by
  cases n <;> simp [fetch?]

/-- There is no last fetch exactly when none has succeeded. -/
theorem lastFetch_eq_none_iff {h : History τ} :
    lastFetch h = none ↔ ∀ t token now, .fetched t token now ∉ h := by
  simp only [lastFetch, List.findSome?_eq_none_iff, List.mem_reverse, fetch?_eq_none_iff]
  constructor
  · intro hn t token now hm
    exact hn _ hm t token now rfl
  · rintro hn n hm t token now rfl
    exact hn t token now hm

/-- **The last fetch is one that succeeded and after which none did.** -/
theorem lastFetch_eq_some_iff {h : History τ} {token : Text} {now : τ} :
    lastFetch h = some (token, now) ↔
      ∃ before t after, h = before ++ .fetched t token now :: after ∧
        ∀ t' token' now', .fetched t' token' now' ∉ after := by
  constructor
  · intro hl
    obtain ⟨after, n, before, hr, hn, hnone⟩ := List.findSome?_eq_some_iff.mp hl
    obtain ⟨t, rfl⟩ := fetch?_eq_some_iff.mp hn
    refine ⟨before.reverse, t, after.reverse, ?_, ?_⟩
    · have := congrArg List.reverse hr
      simpa using this
    · intro t' token' now' hm
      exact fetch?_eq_none_iff.mp (hnone _ (List.mem_reverse.mp hm)) t' token' now' rfl
  · rintro ⟨before, t, after, rfl, hnone⟩
    refine List.findSome?_eq_some_iff.mpr ⟨after.reverse, .fetched t token now, before.reverse,
      by simp, rfl, ?_⟩
    intro n hn
    refine fetch?_eq_none_iff.mpr ?_
    rintro t' token' now' rfl
    exact hnone t' token' now' (List.mem_reverse.mp hn)

end History

end Tombola.Token
