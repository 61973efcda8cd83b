import Tombola.Token.History
/-!
# A lock that serves first come, first served

A call that asks for a lock takes it at once when it is free and nobody waits for it, and
else goes to the end of the line.  Whoever holds it gives it back; then the first call of the
line may take it.  A lock belongs to the loop in which it was made.

Main statement: `withdraw_free`, who withdraws leaves a free lock free.
-/

namespace Tombola.Token

/-- A lock. -/
structure Lock where
  /-- The number of the loop in which it was made. -/
  loop : Nat
  locked : Bool
  /-- The calls that wait for it, in order of arrival. -/
  line : List Ticket
  deriving DecidableEq, Repr

namespace Lock

/-- A new lock. -/
def fresh (loop : Nat) : Lock := ⟨loop, false, []⟩

/-- Whether a call that asks for the lock gets it at once. -/
def isFree (l : Lock) : Bool := ! l.locked && l.line.isEmpty

/-- The lock when a call holds it. -/
def take (l : Lock) : Lock := { l with locked := true }

/-- The lock when its holder has given it back. -/
def giveBack (l : Lock) : Lock := { l with locked := false }

/-- The lock with one more call at the end of the line. -/
def join (t : Ticket) (l : Lock) : Lock := { l with line := l.line ++ [t] }

/-- The lock without some calls of the line. -/
def withdraw (who : Ticket → Bool) (l : Lock) : Lock :=
  { l with line := l.line.filter (! who ·) }

/-- The call that may take the lock now, and the lock that it holds then. -/
def next? (l : Lock) : Option (Ticket × Lock) :=
  match l.locked, l.line with
  | false, t :: rest => some (t, { l with locked := true, line := rest })
  | _, _ => none

theorem isFree_iff {l : Lock} : l.isFree = true ↔ l.locked = false ∧ l.line = [] := by
  simp [isFree]

/-- Who withdraws from the line of a free lock leaves it free. -/
theorem withdraw_free {l : Lock} (h : l.isFree = true) (who : Ticket → Bool) :
    (l.withdraw who).isFree = true := by
  obtain ⟨h1, h2⟩ := isFree_iff.mp h
  exact isFree_iff.mpr ⟨h1, by simp [withdraw, h2]⟩

theorem giveBack_free {l : Lock} (h : l.isFree = true) : l.giveBack.isFree = true :=
  isFree_iff.mpr ⟨rfl, (isFree_iff.mp h).2⟩

theorem next?_eq_some {l l' : Lock} {t : Ticket} :
    l.next? = some (t, l') ↔
      l.locked = false ∧ ∃ rest, l.line = t :: rest ∧
        l' = { l with locked := true, line := rest } := by
  obtain ⟨loop, locked, line⟩ := l
  cases locked with
  | true => simp [next?]
  | false =>
    cases line with
    | nil => simp [next?]
    | cons u rest =>
      constructor
      · intro h
        obtain ⟨rfl, rfl⟩ := Prod.mk.inj (Option.some.inj h)
        exact ⟨rfl, rest, rfl, rfl⟩
      · rintro ⟨-, rest', hr, rfl⟩
        obtain ⟨rfl, rfl⟩ := List.cons.inj hr
        rfl

theorem next?_eq_none {l : Lock} : l.next? = none ↔ l.locked = true ∨ l.line = [] := by
  obtain ⟨loop, locked, line⟩ := l
  cases locked <;> cases line <;> simp [next?]

end Lock

end Tombola.Token
