import Tombola.Token.Ttl
import Tombola.Settings.Basic
import Tombola.Vault.Script
/-!
# Where the expected token comes from

The expected token is a fixed text, or a secret on the secret server that is kept for a
while.  A time to live that is zero or less is refused.

Main statements: `ofSettings_fixed`, a token in the settings comes first;
`ofSettings_remote_iff`, when a secret is read; `lookup_of_valid`, a kept token is served
without asking.
-/

namespace Tombola.Token

/-! ## 1. Providers -/

/-- Where the expected token comes from. -/
inductive Provider where
  | fixed (token : String)
  /-- A secret, read by a client and kept for `ttl` seconds. -/
  | remote (client : Vault.Client) (name : String) (ttl : Float)

namespace Provider

/-- The name of the kind of provider. -/
def source : Provider → String
  | fixed _ => "static"
  | remote _ _ _ => "remote"

/-- The provider that the settings ask for. -/
def ofSettings (s : Settings) : Except ConfigFault Provider :=
  if s.slackToken ≠ "" then .ok (.fixed s.slackToken)
  else if s.secretName ≠ "" then
    let client := Vault.Client.create s.vaultAddress s.vaultToken s.vaultMount s.vaultField
    match (Ttl.real s.tokenTtl).check with
    | .ok ttl => .ok (.remote client s.secretName ttl)
    | .error e => .error e
  else .error .noToken

/-- A token in the settings comes first. -/
theorem ofSettings_fixed {s : Settings} (h : s.slackToken ≠ "") :
    ofSettings s = .ok (.fixed s.slackToken) := by
  simp [ofSettings, h]

/-- **Without a token in the settings a secret is read**, if it has a name and may be kept. -/
theorem ofSettings_remote_iff {s : Settings} {p : Provider} (h : s.slackToken = "") :
    ofSettings s = .ok p ↔
      s.secretName ≠ "" ∧ ¬ s.tokenTtl ≤ 0 ∧
        p = .remote (.create s.vaultAddress s.vaultToken s.vaultMount s.vaultField) s.secretName
          s.tokenTtl := by
  unfold ofSettings
  by_cases hn : s.secretName = ""
  · simp [h, hn]
  · by_cases ht : s.tokenTtl ≤ 0
    · simp [h, hn, Ttl.check, Ttl.seconds, ht]
    · simp [h, hn, Ttl.check, Ttl.seconds, ht, eq_comm]

/-! ## 2. Lookups one after another -/

/-- What a provider needs between lookups: what it keeps, and the server it asks. -/
structure Memory where
  lease : Option (Lease Float)
  server : Vault.Server

/-- Looks the token up at the instant `now`. -/
def lookup (p : Provider) (now : Float) (m : Memory) : Except Failure Text × Memory :=
  match p with
  | fixed token => (.ok (Text.ofString token), m)
  | remote client name ttl =>
    match Lease.valid? now m.lease with
    | some token => (.ok token, m)
    | none =>
      match client.read name m.server with
      | (.ok token, server) => (.ok token, ⟨some (.start ttl now token), server⟩)
      | (.error f, server) => (.error f, { m with server := server })

/-- A kept token is served without asking. -/
theorem lookup_of_valid {client : Vault.Client} {name : String} {ttl now : Float} {m : Memory}
    {token : Text} (h : Lease.valid? now m.lease = some token) :
    (remote client name ttl).lookup now m = (.ok token, m) := by
  simp [lookup, h]

end Provider

end Tombola.Token
