import Tombola.Token.Provider
import Tombola.Proofs.Vault.Reading
/-!
# What looking the expected token up comes to

A fixed token is there at once.  A secret is served from what is kept, or read.  So a lookup
fails only if the read does, with an error of ours or because it stumbles
(`Provider.Stumbles`).  Whatever is found was found by a read before: a property of the secrets
in the script of the server (`Provider.Yields`) is one of all tokens that are found, and of the
one that is kept (`Provider.Memory.Keeps`).

Main statements:

* `Provider.lookup_error`, `Provider.Stumbles.lookup`: when a lookup fails, and with what;
* `Provider.lookup_keeps`, `Provider.found_of_yields`: what a lookup keeps, and finds.
-/

namespace Tombola.Token.Provider

open Vault

variable {p : Provider} {now : Float} {m : Memory}

/-! ## 1. Lookups that fail -/

/-- **Whether a lookup stumbles:** nothing is kept, and the read stumbles. -/
def Stumbles (now : Float) (m : Memory) : Provider → Prop
  | fixed _ => False
  | remote client name _ =>
    Lease.valid? now m.lease = none ∧ client.Stumbles name m.server.next

theorem lookup_of_invalid {client : Client} {name : String} {ttl : Float}
    (h : Lease.valid? now m.lease = none) :
    ((remote client name ttl).lookup now m).1 = (client.read name m.server).1 := by
  simp only [lookup, h]
  rcases client.read name m.server with ⟨f | t, server⟩ <;> rfl

/-- **A lookup that stumbles fails,** and with no error of ours. -/
theorem Stumbles.lookup (h : p.Stumbles now m) :
    ∃ f, (p.lookup now m).1 = .error f ∧ f.isOurs = false ∧ f.isTimeout = false := by
  cases p with
  | fixed token => exact h.elim
  | remote client name ttl =>
    rw [lookup_of_invalid h.1]
    exact h.2.read

/-- **What a lookup fails with:** an error of ours, if it does not stumble. -/
theorem lookup_error {f : Failure} (ho : m.server.next.isOrdinary = true)
    (h : (p.lookup now m).1 = .error f) :
    p.Stumbles now m ∨ ∃ fault, f = .ours (.secret fault) := by
  cases p with
  | fixed token => cases h
  | remote client name ttl =>
    cases hv : Lease.valid? now m.lease with
    | some token =>
      rw [lookup_of_valid hv] at h
      cases h
    | none =>
      rw [lookup_of_invalid hv] at h
      rcases Client.read_error ho h with hours | ⟨hs, -⟩
      · exact .inr hours
      · exact .inl ⟨hv, hs⟩

/-! ## 2. What is found -/

variable {Q : Text → Prop} {script : List Exchange}

/-- Whether all tokens that a provider can give have a property: the fixed one, or the secrets in
a script. -/
def Yields (Q : Text → Prop) (script : List Exchange) : Provider → Prop
  | fixed token => Q (Text.ofString token)
  | remote client name _ => ∀ e ∈ script, ∀ t, client.judge name none e = .ok t → Q t

/-- Whether a server goes by a script, and the token that is kept has a property. -/
structure Memory.Keeps (Q : Text → Prop) (script : List Exchange) (m : Memory) : Prop where
  script : m.server.script = script
  lease : ∀ l, m.lease = some l → Q l.token

theorem keeps_init (Q : Text → Prop) (script : List Exchange) :
    Memory.Keeps Q script ⟨none, .init script⟩ :=
  ⟨rfl, nofun⟩

theorem found_of_read {client : Client} {name : String} {t : Text} (hm : m.Keeps Q script)
    (hQ : ∀ e ∈ script, ∀ t, client.judge name none e = .ok t → Q t)
    (h : (client.read name m.server).1 = .ok t) : Q t := by
  have hjudge := Client.judge_of_read h
  rcases m.server.next_mem with hmem | hnone
  · rw [hm.script] at hmem
    exact hQ _ hmem t hjudge
  · rw [hnone] at hjudge
    cases hjudge

/-- **What is found** has the property of all tokens that can be given. -/
theorem found_of_yields {t : Text} (hp : p.Yields Q script) (hm : m.Keeps Q script)
    (h : (p.lookup now m).1 = .ok t) : Q t := by
  cases p with
  | fixed token =>
    obtain rfl := Except.ok.inj h
    exact hp
  | remote client name ttl =>
    cases hv : Lease.valid? now m.lease with
    | some token =>
      rw [lookup_of_valid hv] at h
      obtain rfl := Except.ok.inj h
      obtain ⟨l, hl, -, rfl⟩ := Lease.valid?_eq_some_iff.mp hv
      exact hm.lease l hl
    | none =>
      rw [lookup_of_invalid hv] at h
      exact found_of_read hm hp h

/-- **What a lookup keeps** has that property as well. -/
theorem lookup_keeps (hp : p.Yields Q script) (hm : m.Keeps Q script) :
    (p.lookup now m).2.Keeps Q script := by
  cases p with
  | fixed token => exact hm
  | remote client name ttl =>
    cases hv : Lease.valid? now m.lease with
    | some token =>
      rw [lookup_of_valid hv]
      exact hm
    | none =>
      have hscript := Client.read_script client name m.server
      have hfound : ∀ t, (client.read name m.server).1 = .ok t → Q t :=
        fun _ => found_of_read hm hp
      simp only [lookup, hv]
      rcases hr : client.read name m.server with ⟨f | t, server⟩
      · rw [hr] at hscript
        exact ⟨hscript.trans hm.script, hm.lease⟩
      · rw [hr] at hscript hfound
        refine ⟨hscript.trans hm.script, ?_⟩
        rintro l ⟨rfl⟩
        exact hfound t rfl

end Tombola.Token.Provider
