import Tombola.Text.CodePoint
/-!
# Leases

A token that was fetched may be served until its lease runs out: strictly before the instant
of the fetch plus the time to live.  Instants are any type with an order and an addition, so
that a clock may count in floating point or in exact fractions.

Main statement: `valid?_eq_some_iff`, when a lease serves.
-/

namespace Tombola.Token

/-- A fetched token and the instant at which it stops being served. -/
structure Lease (τ : Type) where
  token : Text
  expiry : τ
  deriving Repr

namespace Lease

variable {τ : Type} [Add τ] [LT τ] [DecidableLT τ]

/-- The lease of a token fetched at `now`. -/
def start (ttl now : τ) (token : Text) : Lease τ := ⟨token, now + ttl⟩

/-- The token that may be served at `now`, if there is one. -/
def valid? (now : τ) (lease : Option (Lease τ)) : Option Text :=
  match lease with
  | some l => if now < l.expiry then some l.token else none
  | none => none

omit [Add τ] in
/-- **A token is served strictly before its expiry, and at no other time.** -/
theorem valid?_eq_some_iff {now : τ} {lease : Option (Lease τ)} {token : Text} :
    valid? now lease = some token ↔ ∃ l, lease = some l ∧ now < l.expiry ∧ l.token = token := by
  cases lease with
  | none => simp [valid?]
  | some l => by_cases h : now < l.expiry <;> simp [valid?, h]

omit [Add τ] in
theorem valid?_eq_none_iff {now : τ} {lease : Option (Lease τ)} :
    valid? now lease = none ↔ ∀ l, lease = some l → ¬ now < l.expiry := by
  cases lease with
  | none => simp [valid?]
  | some l => simp [valid?]

end Lease

end Tombola.Token
