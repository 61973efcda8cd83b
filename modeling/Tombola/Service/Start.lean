import Tombola.Service.Message
import Tombola.Settings.Production
import Tombola.Token.Provider
import Tombola.Groups.Backend
import Tombola.Log.Level
/-!
# Starting the service

The service starts when its settings parse, hold what a production needs, configure the log,
and give a provider of the expected token and a store.  The first of these that fails is why
it does not start.

Main statements: `startWith_eq_ok_iff`, `start_eq_ok_iff`, what a service that started has.
-/

namespace Tombola.Service

open Groups

/-- What a service has that started. -/
structure Started where
  settings : Settings
  log : Log.Config
  provider : Token.Provider
  backend : Backend

/-- Starts a service with settings, in a process with an environment. -/
def startWith (s : Settings) (environment : List (String × String)) : Except Escape Started :=
  match s.check with
  | .error f => .error (.failure f)
  | .ok () =>
    match Log.Config.make s.logLevel none environment with
    | .error f => .error (.failure f)
    | .ok log =>
      match Token.Provider.ofSettings s with
      | .error e => .error (.failure (.ours (.config e)))
      | .ok provider =>
        match Backend.ofName s.storeBackend s.appDb with
        | .error e => .error (.failure (.ours (.config e)))
        | .ok backend => .ok ⟨s, log, provider, backend⟩

def start (sources : Settings.Sources) : Except Escape Started :=
  match Settings.read sources with
  | .error faults => .error (.settings faults)
  | .ok s => startWith s sources.environment

/-- **What a service has that started with settings:** each part as its own rule gives it. -/
theorem startWith_eq_ok_iff {s : Settings} {environment : List (String × String)} {r : Started} :
    startWith s environment = .ok r ↔
      s = r.settings ∧ s.check = .ok () ∧ Log.Config.make s.logLevel none environment = .ok r.log ∧
        Token.Provider.ofSettings s = .ok r.provider ∧
        Backend.ofName s.storeBackend s.appDb = .ok r.backend := by
  obtain ⟨s', log, provider, backend⟩ := r
  unfold startWith
  constructor
  · intro h
    split at h
    · cases h
    · rename_i h1
      split at h
      · cases h
      · rename_i log' h2
        split at h
        · cases h
        · rename_i p' h3
          split at h
          · cases h
          · rename_i b' h4
            cases h
            exact ⟨rfl, h1, h2, h3, h4⟩
  · rintro ⟨rfl, h1, h2, h3, h4⟩
    simp only [h1, h2, h3, h4]

/-- **What a service that started has:** it read its settings, and started with them. -/
theorem start_eq_ok_iff {sources : Settings.Sources} {r : Started} :
    start sources = .ok r ↔
      Settings.read sources = .ok r.settings ∧ r.settings.check = .ok () ∧
        Log.Config.make r.settings.logLevel none sources.environment = .ok r.log ∧
        Token.Provider.ofSettings r.settings = .ok r.provider ∧
        Backend.ofName r.settings.storeBackend r.settings.appDb = .ok r.backend := by
  unfold start
  cases hs : Settings.read sources with
  | error faults => simp
  | ok s =>
    simp only [startWith_eq_ok_iff, Except.ok.injEq]
    constructor
    · rintro ⟨rfl, h⟩
      exact ⟨rfl, h⟩
    · rintro ⟨rfl, h⟩
      exact ⟨rfl, h⟩

end Tombola.Service
