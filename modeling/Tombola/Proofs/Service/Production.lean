import Tombola.Service.Start
/-!
# What a production starts with

The check of production settings means to keep a production from starting without a real
secret or without a store that lasts.  It looks at the settings in its own way: it compares
the name of the backend as it is written, and takes blanks for no token.  What is built
afterwards reads the same settings differently: the backend goes by its name in small letters
without blanks around it, and any token that is not empty is one.

So a production that starts has what the check means on a part of the settings only.  This
file says on which:

* `lasting_iff_of_production`: the store lasts under the exact names of the backends; under
  another spelling it may be in memory, or in a file that depends on the working directory;
* `real_iff_of_production`: the secret is real if the token is not blank, or if it is empty
  and the secret can be read and kept; a blank token is taken for the secret itself.
-/

namespace Tombola

open Groups

/-! ## 1. Stores that last -/

/-- Whether groups are kept in a file that does not depend on the working directory. -/
def Groups.Backend.IsLasting : Backend → Prop
  | .memory => False
  | .table path => Settings.beginsWith "/" path = true

instance (b : Backend) : Decidable b.IsLasting :=
  match b with
  | .memory => inferInstanceAs (Decidable False)
  | .table path => inferInstanceAs (Decidable (Settings.beginsWith "/" path = true))

/-- **When the store of a production lasts.**  Let a service for production have started, so that
its settings passed the check.  If the store has one of its exact names, then it lasts: the check
asks for a path from the root, and refuses the memory.  Under other spellings, which the check
passes over and the choice of the store does not, it lasts exactly if the name is that of the table
but for letter case and blanks, and the path happens to begin at the root. -/
theorem Service.lasting_iff_of_production {s : Settings} {environment : List (String × String)}
    {r : Started} (hp : s.appEnv = "prod") (h : startWith s environment = .ok r) :
    (s.storeBackend = "sqlite" ∨ s.storeBackend = "memory" → r.backend.IsLasting) ∧
      (r.backend.IsLasting ↔
        Backend.plain s.storeBackend = "sqlite" ∧ Settings.beginsWith "/" s.appDb = true) := by
  obtain ⟨-, hcheck, -, -, hb⟩ := startWith_eq_ok_iff.mp h
  rw [Settings.check_eq_ok_iff_of_production hp, Settings.lacks_eq_nil_iff] at hcheck
  obtain ⟨-, hpath, hmemory⟩ := hcheck
  have hiff : r.backend.IsLasting ↔
      Backend.plain s.storeBackend = "sqlite" ∧ Settings.beginsWith "/" s.appDb = true := by
    rcases Backend.ofName_eq_ok_iff.mp hb with ⟨hn, hb⟩ | ⟨hn, hb⟩
    · rw [hb, hn]
      simp [Backend.IsLasting]
    · rw [hb, hn]
      exact ⟨False.elim, fun e => absurd e.1 (by decide)⟩
  refine ⟨?_, hiff⟩
  rintro (hs | hm)
  · refine hiff.mpr ⟨?_, hpath hs⟩
    rw [hs]
    decide
  · exact absurd hm hmemory

/-- Production settings with a fixed token. -/
def Service.tokenSettings : Settings :=
  { Settings.default with appEnv := "prod", slackToken := "secret", appDb := "/srv/groups.db" }

theorem Service.lasting_of_production_token :
    ∃ r, startWith tokenSettings [] = .ok r ∧ r.backend.IsLasting := by
  have h : startWith tokenSettings [] =
      .ok ⟨tokenSettings, ⟨20, false⟩, .fixed "secret", .table "/srv/groups.db"⟩ := rfl
  exact ⟨_, h, (lasting_iff_of_production rfl h).1 (.inl rfl)⟩

/-- A capital letter makes a production start with groups in memory, and a blank with a file
that depends on the working directory. -/
theorem Service.not_lasting_of_production :
    (∃ r, startWith { tokenSettings with storeBackend := "Memory" } [] = .ok r
        ∧ r.backend = .memory ∧ ¬ r.backend.IsLasting) ∧
      ∃ r, startWith { tokenSettings with storeBackend := " sqlite", appDb := "groups.db" } []
          = .ok r ∧ r.backend = .table "groups.db" ∧ ¬ r.backend.IsLasting :=
  ⟨⟨_, rfl, rfl, by decide⟩, ⟨_, rfl, rfl, by decide⟩⟩

/-! ## 2. Real secrets -/

/-- The address of a client that was given a safe one.  Slashes at its end are dropped, those
of the scheme too if nothing else follows. -/
theorem Vault.Client.create_safe_iff {address token mount field : String}
    (h : Settings.beginsWith "https://" address = true) :
    Settings.beginsWith "https://" (create address token mount field).address = true ↔
      ∃ c ∈ address.toList.drop "https://".length, c ≠ '/' := by
  obtain ⟨host, hhost⟩ := List.isPrefixOf_iff_prefix.mp h
  have hdrop : address.toList.drop "https://".length = host := by
    rw [← hhost]
    exact List.drop_left
  have haddress : (create address token mount field).address.toList =
      Text.trimEnd isSlash ("https://".toList ++ host) := by
    rw [hhost]
    exact String.toList_ofList
  rw [hdrop, Settings.beginsWith, haddress]
  by_cases hc : ∃ c ∈ host, c ≠ '/'
  · obtain ⟨c, hm, hne⟩ := hc
    rw [Text.trimEnd_append_of_mem hm (by simpa [isSlash] using hne)]
    exact iff_of_true (List.isPrefixOf_iff_prefix.mpr (List.prefix_append _ _)) ⟨c, hm, hne⟩
  · have hall : ∀ c ∈ host, isSlash c = true := by simpa [isSlash] using hc
    rw [Text.trimEnd_append_of_all hall]
    exact iff_of_false (by decide) hc

/-- Whether a provider asks for a real secret: for a token that is not blank; or for one that
is kept for a positive time, under a name that is not blank, from a server that is reached
safely and with a token that is not blank. -/
def Token.Provider.IsReal : Provider → Prop
  | .fixed token => Text.isBlankText token = false
  | .remote client name ttl =>
    0 < ttl ∧ Text.isBlankText name = false ∧ Settings.beginsWith "https://" client.address = true
      ∧ Text.isBlankText client.token = false

instance (p : Token.Provider) : Decidable p.IsReal :=
  match p with
  | .fixed token => inferInstanceAs (Decidable (Text.isBlankText token = false))
  | .remote _ _ _ => inferInstanceAs (Decidable (_ ∧ _ ∧ _ ∧ _))

/-- **When a production asks for a real secret.**  Let a service for production have started, so
that its settings passed the check.  It asks for a real token exactly if the token of the settings
has more in it than blanks, or if there is none and the secret server can be asked and what it
gives be kept.  A token that is blank but not empty is none of this: the check passes it over, and
it is the one that is asked for.  Nor is an address of slashes alone, or a time to live that is no
number. -/
theorem Service.real_iff_of_production {s : Settings} {environment : List (String × String)}
    {r : Started} (hp : s.appEnv = "prod") (h : startWith s environment = .ok r) :
    r.provider.IsReal ↔
      Text.isBlankText s.slackToken = false ∨
        s.slackToken = "" ∧ 0 < s.tokenTtl ∧
          ∃ c ∈ s.vaultAddress.toList.drop "https://".length, c ≠ '/' := by
  obtain ⟨-, hcheck, -, hprovider, -⟩ := startWith_eq_ok_iff.mp h
  rw [Settings.check_eq_ok_iff_of_production hp, Settings.lacks_eq_nil_iff] at hcheck
  by_cases ht : s.slackToken = ""
  · have hblank : Text.isBlankText s.slackToken = true := by rw [ht]; rfl
    obtain ⟨hname, htoken, haddress⟩ := hcheck.1 hblank
    obtain ⟨-, -, hr⟩ := (Token.Provider.ofSettings_remote_iff ht).mp hprovider
    -- The check has seen to all but the time to live and what is left of the address.
    rw [hr, hblank]
    simp only [Token.Provider.IsReal, Vault.Client.create_safe_iff haddress, hname, ht]
    simp [Vault.Client.create, htoken]
  · rw [Token.Provider.ofSettings_fixed ht] at hprovider
    rw [← Except.ok.inj hprovider]
    simp [Token.Provider.IsReal, ht]

/-- Production settings that name a secret. -/
def Service.secretSettings : Settings :=
  { Settings.default with
    appEnv := "prod", secretName := "slack", vaultAddress := "https://vault/", vaultToken := "v" }

theorem Service.real_of_production_secret :
    ∃ r, startWith secretSettings [] = .ok r ∧ r.provider.IsReal := by
  have h : startWith secretSettings [] =
      .ok ⟨secretSettings, ⟨20, false⟩,
        .remote ⟨"https://vault", "secret", "value", "v"⟩ "slack" 120.0,
        .table "/tmp/randomizer.db"⟩ := rfl
  exact ⟨_, h, (real_iff_of_production rfl h).mpr
    (.inr ⟨rfl, by decide, 'v', by decide, by decide⟩)⟩

/-- A blank takes the place of the secret that the settings name; an address of slashes alone
and a time that is no number pass as well. -/
theorem Service.not_real_of_production :
    (∃ r, startWith { secretSettings with slackToken := " " } [] = .ok r
        ∧ r.provider = .fixed " " ∧ ¬ r.provider.IsReal) ∧
      (∃ r, startWith { secretSettings with vaultAddress := "https://" } [] = .ok r
        ∧ ¬ r.provider.IsReal) ∧
      ∃ r, startWith { secretSettings with tokenTtl := 0.0 / 0.0 } [] = .ok r
        ∧ ¬ r.provider.IsReal :=
  ⟨⟨_, rfl, rfl, by decide⟩, ⟨_, rfl, by decide⟩, ⟨_, rfl, by decide⟩⟩

end Tombola
