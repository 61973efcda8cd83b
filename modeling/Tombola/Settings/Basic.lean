import Tombola.Settings.Number
import Tombola.Settings.EnvFile
import Tombola.Text.Letters
/-!
# Settings

The settings come from the environment, else from an environment file, else from defaults.
Names of variables are compared without regard to letter case.  All numbers are checked, and
everything that is wrong is reported together.

Main statements: `get?_folded`, which variable counts; `read_texts`, texts are taken as they
stand: only numbers can be wrong.
-/

namespace Tombola

open Groups

/-! ## 1. The settings -/

/-- The settings of the program. -/
structure Settings where
  appEnv : String
  logLevel : String
  commandName : String
  slackToken : String
  secretName : String
  /-- How many seconds a token from the secret server is served. -/
  tokenTtl : Float
  vaultAddress : String
  vaultToken : String
  vaultMount : String
  vaultField : String
  vaultTimeout : Float
  storeBackend : String
  appDb : String
  commandTimeout : Float
  rateLimit : Int
  deriving Repr

/-- The settings that nothing is said about. -/
def Settings.default : Settings where
  appEnv := "dev"
  logLevel := "INFO"
  commandName := "/randomize"
  slackToken := ""
  secretName := ""
  tokenTtl := 120.0
  vaultAddress := "http://127.0.0.1:8200"
  vaultToken := ""
  vaultMount := "secret"
  vaultField := "value"
  vaultTimeout := 1.5
  storeBackend := "sqlite"
  appDb := "/tmp/randomizer.db"
  commandTimeout := 2.5
  rateLimit := 120

namespace Settings

/-! ## 2. Variables -/

/-- The variables of a process by their exact names, in the order of the environment, and an
environment file if there is one. -/
structure Sources where
  environment : List (String × String)
  file : Option String

/-- The variables under names in small letters.  Of two names that differ in letter case
only, the later one counts. -/
@[irreducible]
def folded {α : Type} (vars : List (String × α)) : Entries α :=
  vars.foldl (fun es v => es.put (Text.inSmall v.1) v.2) []

theorem get?_foldl_put {α : Type} (vars : List (String × α)) (es : Entries α) (key : String) :
    (vars.foldl (fun (es : Entries α) v => es.put (Text.inSmall v.1) v.2) es).get? key =
      ((vars.reverse.find? fun v => Text.inSmall v.1 = key).map (·.2)).or (es.get? key) := by
  induction vars generalizing es with
  | nil => rfl
  | cons v vars ih =>
    rw [List.foldl_cons, ih, List.reverse_cons, List.find?_append, Entries.get?_put]
    cases vars.reverse.find? fun v => Text.inSmall v.1 = key with
    | some u => rfl
    | none =>
      by_cases h : Text.inSmall v.1 = key
      · simp [h]
      · simp [h, Ne.symm h]

/-- **What is found under a name** is the last variable that it folds to. -/
theorem get?_folded {α : Type} (vars : List (String × α)) (key : String) :
    (folded vars).get? key =
      (vars.reverse.find? fun v => Text.inSmall v.1 = key).map (·.2) := by
  rw [folded, get?_foldl_put]
  exact Option.or_none

/-- The values of a file under names in small letters. -/
def foldedFile (s : Sources) : Entries (Option String) :=
  match s.file with
  | none => []
  | some text => folded (EnvFile.values s.environment text)

/-- The value of a variable. -/
def Sources.look (s : Sources) (name : String) : Option String :=
  let key := Text.inSmall name
  match (folded s.environment).get? key with
  | some v => some v
  | none => ((foldedFile s).get? key).getD none

/-! ## 3. Reading -/

/-- What is wrong with the settings: names of variables with what is wrong with each. -/
abbrev Faults := List (String × NumberFault)

/-- A number from a variable, or its default. -/
def number {α : Type} (read : String → Except NumberFault α) (default : α) (v : Option String) :
    Except NumberFault α :=
  match v with
  | some s => read s
  | none => .ok default

/-- The fault of a number under the name of its variable. -/
def faultOf {α : Type} (name : String) : Except NumberFault α → Faults
  | .ok _ => []
  | .error f => [(name, f)]

/-- The settings, or all faults sorted by name. -/
def read (s : Sources) : Except Faults Settings :=
  let d := Settings.default
  let text (name default : String) : String := (s.look name).getD default
  let ttl := number readFloat d.tokenTtl (s.look "SLACK_TOKEN_TTL_SECONDS")
  let vaultTimeout := number readFloat d.vaultTimeout (s.look "VAULT_TIMEOUT_SECONDS")
  let commandTimeout := number readFloat d.commandTimeout (s.look "COMMAND_TIMEOUT_SECONDS")
  let rate := number readInt d.rateLimit (s.look "RATE_LIMIT_COMMANDS_PER_MINUTE")
  match ttl, vaultTimeout, commandTimeout, rate with
  | .ok ttl, .ok vaultTimeout, .ok commandTimeout, .ok rate =>
    .ok {
      appEnv := text "APP_ENV" d.appEnv
      logLevel := text "LOG_LEVEL" d.logLevel
      commandName := text "COMMAND_NAME" d.commandName
      slackToken := text "SLACK_TOKEN" d.slackToken
      secretName := text "SLACK_TOKEN_SECRET_NAME" d.secretName
      tokenTtl := ttl
      vaultAddress := text "VAULT_ADDR" d.vaultAddress
      vaultToken := text "VAULT_TOKEN" d.vaultToken
      vaultMount := text "VAULT_MOUNT" d.vaultMount
      vaultField := text "VAULT_FIELD" d.vaultField
      vaultTimeout := vaultTimeout
      storeBackend := text "STORE_BACKEND" d.storeBackend
      appDb := text "APP_DB" d.appDb
      commandTimeout := commandTimeout
      rateLimit := rate }
  | _, _, _, _ =>
    .error (faultOf "COMMAND_TIMEOUT_SECONDS" commandTimeout
      ++ faultOf "RATE_LIMIT_COMMANDS_PER_MINUTE" rate
      ++ faultOf "SLACK_TOKEN_TTL_SECONDS" ttl
      ++ faultOf "VAULT_TIMEOUT_SECONDS" vaultTimeout)

/-- Only numbers can be wrong: without the four variables that hold one, the settings are
read whatever the other variables are. -/
theorem read_texts {s : Sources} (h1 : s.look "SLACK_TOKEN_TTL_SECONDS" = none)
    (h2 : s.look "VAULT_TIMEOUT_SECONDS" = none) (h3 : s.look "COMMAND_TIMEOUT_SECONDS" = none)
    (h4 : s.look "RATE_LIMIT_COMMANDS_PER_MINUTE" = none) : ∃ r, read s = .ok r := by
  simp only [read, h1, h2, h3, h4, number]
  exact ⟨_, rfl⟩

end Settings

end Tombola
