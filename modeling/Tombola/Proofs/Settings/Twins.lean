import Tombola.Settings.Basic
/-!
# Settings that are equal but for the token

Two environments that agree on everything but the expected token lead to settings that do so as
well (`Twins`), or the same is wrong with both (`ReadTwins`).  Such environments are made by
giving the variable of the token another value (`assign`), as long as the environment file does
not insert it into something else.

Main statements: `Twins.others`, what the settings agree on; `get?_folded_assign`, what giving a
variable another value changes; `readTwins_assign`, that this makes twins.
-/

namespace Tombola.Settings

open Groups

def withToken (token : String) (s : Settings) : Settings := { s with slackToken := token }

/-- **Settings that are equal but for the token,** which is `t` in one and `t'` in the other if it
is not the same. -/
inductive Twins (t t' : String) : Settings → Settings → Prop where
  | same (s : Settings) : Twins t t' s s
  | tokens (s : Settings) : Twins t t' (s.withToken t) (s.withToken t')

/-- **Settings that are read in twins:** the same is wrong with them, or they are equal but for
the token. -/
inductive ReadTwins (t t' : String) : Except Faults Settings → Except Faults Settings → Prop where
  | faults (faults : Faults) : ReadTwins t t' (.error faults) (.error faults)
  | read {s s' : Settings} (h : s.Twins t t' s') : ReadTwins t t' (.ok s) (.ok s')

variable {t t' : String}

/-- What commands and their gates ask of the settings beside the token. -/
theorem Twins.others {s s' : Settings} (h : s.Twins t t' s') :
    s.commandName = s'.commandName ∧ s.storeBackend = s'.storeBackend ∧ s.appDb = s'.appDb ∧
      s.commandTimeout = s'.commandTimeout ∧ s.rateLimit = s'.rateLimit := by
  cases h with
  | same s => exact ⟨rfl, rfl, rfl, rfl, rfl⟩
  | tokens s => exact ⟨rfl, rfl, rfl, rfl, rfl⟩

/-- The level of the log does not depend on the token. -/
theorem ReadTwins.logLevel {settings settings' : Except Faults Settings}
    (h : ReadTwins t t' settings settings') :
    settings.map (·.logLevel) = settings'.map (·.logLevel) := by
  cases h with
  | faults faults => rfl
  | read hs => cases hs <;> rfl

/-! ## 1. Variables with another value -/

/-- A variable with its value, or with another one if it has this name. -/
def assigned (name value : String) (v : String × String) : String × String :=
  (v.1, if Text.inSmall v.1 = Text.inSmall name then value else v.2)

/-- Variables with another value under one name, in whatever letter case. -/
def assign (name value : String) (vars : List (String × String)) : List (String × String) :=
  vars.map (assigned name value)

variable {name key value value' : String} {vars : List (String × String)} {file : Option String}
  {src src' : Sources}

/-- **Only what is found under the one name is another value,** if there was any. -/
theorem get?_folded_assign (name value key : String) (vars : List (String × String)) :
    (folded (assign name value vars)).get? key =
      ((folded vars).get? key).map fun v => if key = Text.inSmall name then value else v := by
  have hsame : (fun v : String × String => decide (Text.inSmall v.1 = key)) ∘ assigned name value
      = fun v => decide (Text.inSmall v.1 = key) := rfl
  rw [get?_folded, get?_folded, assign, ← List.map_reverse, List.find?_map, hsame]
  cases hf : vars.reverse.find? fun v => decide (Text.inSmall v.1 = key) with
  | none => rfl
  | some v =>
    have hv : Text.inSmall v.1 = key := by simpa using List.find?_some hf
    simp only [Option.map_some, assigned, hv]

theorem isSome_get?_folded (h : ∃ v ∈ vars, Text.inSmall v.1 = key) :
    ((folded vars).get? key).isSome := by
  obtain ⟨v, hv, hkey⟩ := h
  rw [get?_folded, Option.isSome_map, List.find?_isSome]
  exact ⟨v, List.mem_reverse.mpr hv, decide_eq_true hkey⟩

theorem look_assign_self (h : ∃ v ∈ vars, Text.inSmall v.1 = Text.inSmall name) :
    Sources.look ⟨assign name value vars, file⟩ name = some value := by
  obtain ⟨v, hv⟩ := Option.isSome_iff_exists.mp (isSome_get?_folded h)
  simp only [Sources.look, get?_folded_assign, hv, Option.map_some, if_true]

theorem look_assign_other (hkey : Text.inSmall key ≠ Text.inSmall name)
    (hfile : foldedFile ⟨assign name value vars, file⟩
      = foldedFile ⟨assign name value' vars, file⟩) :
    Sources.look ⟨assign name value vars, file⟩ key
      = Sources.look ⟨assign name value' vars, file⟩ key := by
  simp only [Sources.look, get?_folded_assign, if_neg hkey, hfile]

/-! ## 2. The variable of the token -/

/-- Sources that agree on all other variables are read in twins. -/
theorem readTwins_of_look
    (h : ∀ name, Text.inSmall name ≠ Text.inSmall "SLACK_TOKEN" → src.look name = src'.look name)
    (ht : src.look "SLACK_TOKEN" = some t) (ht' : src'.look "SLACK_TOKEN" = some t') :
    ReadTwins t t' (read src) (read src') := by
  unfold read
  simp only [ht, ht', h "SLACK_TOKEN_TTL_SECONDS" (by decide),
    h "VAULT_TIMEOUT_SECONDS" (by decide), h "COMMAND_TIMEOUT_SECONDS" (by decide),
    h "RATE_LIMIT_COMMANDS_PER_MINUTE" (by decide), h "APP_ENV" (by decide),
    h "LOG_LEVEL" (by decide), h "COMMAND_NAME" (by decide),
    h "SLACK_TOKEN_SECRET_NAME" (by decide), h "VAULT_ADDR" (by decide),
    h "VAULT_TOKEN" (by decide), h "VAULT_MOUNT" (by decide), h "VAULT_FIELD" (by decide),
    h "STORE_BACKEND" (by decide), h "APP_DB" (by decide)]
  split
  · exact .read (.tokens ⟨_, _, _, t, _, _, _, _, _, _, _, _, _, _, _⟩)
  · exact .faults _

/-- **Environments that differ in the value of one variable,** that of the token, are read in twins,
if the values of the environment file do not depend on it. -/
theorem readTwins_assign (hset : ∃ v ∈ vars, Text.inSmall v.1 = Text.inSmall "SLACK_TOKEN")
    (hfile : foldedFile ⟨assign "SLACK_TOKEN" t vars, file⟩
      = foldedFile ⟨assign "SLACK_TOKEN" t' vars, file⟩) :
    ReadTwins t t' (read ⟨assign "SLACK_TOKEN" t vars, file⟩)
      (read ⟨assign "SLACK_TOKEN" t' vars, file⟩) :=
  readTwins_of_look (fun _ hkey => look_assign_other hkey hfile) (look_assign_self hset)
    (look_assign_self hset)

end Tombola.Settings
