import Tombola.Settings.Basic
import Tombola.Text.Blank
import Tombola.Error
/-!
# Settings for production

In production the token must come from somewhere, a secret server must be reached safely and
with a token of its own, and groups must be kept in a file at an absolute path.  Everything
that is wrong is reported together.

Main statements: `check_of_not_production`, elsewhere nothing is asked;
`check_eq_ok_iff_of_production`, `lacks_eq_nil_iff`, what a production has to have.
-/

namespace Tombola.Settings

/-- What a production needs and the settings do not have. -/
inductive Lack where
  | token
  | vaultToken
  | safeVault
  | absolutePath
  | durableStore
  deriving DecidableEq, Repr

def Lack.text : Lack → String
  | token => "SLACK_TOKEN or SLACK_TOKEN_SECRET_NAME"
  | vaultToken => "VAULT_TOKEN"
  | safeVault => "VAULT_ADDR(https required)"
  | absolutePath => "APP_DB(absolute path required)"
  | durableStore => "STORE_BACKEND(memory is not durable)"

def beginsWith (start s : String) : Bool := start.toList.isPrefixOf s.toList

/-- Whether the settings are for production. -/
def isProduction (s : Settings) : Bool := s.appEnv = "prod"

/-- What is lacking, whatever the settings are for. -/
def lacks (s : Settings) : List Lack :=
  let token := ! Text.isBlankText s.slackToken
  let secret := ! Text.isBlankText s.secretName
  (if ! token && ! secret then [.token] else [])
    ++ (if ! token && secret && Text.isBlankText s.vaultToken then [.vaultToken] else [])
    ++ (if ! token && secret && ! beginsWith "https://" s.vaultAddress then [.safeVault] else [])
    ++ (if s.storeBackend = "sqlite" && ! beginsWith "/" s.appDb then [.absolutePath] else [])
    ++ (if s.storeBackend = "memory" then [.durableStore] else [])

/-- Refuses production settings that lack something. -/
def check (s : Settings) : Except Failure Unit :=
  if ! s.isProduction then .ok ()
  else match s.lacks with
    | [] => .ok ()
    | ls =>
      let sorted := (ls.map Lack.text).mergeSort fun a b => decide (a ≤ b)
      .error (.plain .value ("invalid production configuration: " ++ ", ".intercalate sorted))

/-- Elsewhere nothing is asked. -/
theorem check_of_not_production {s : Settings} (h : s.appEnv ≠ "prod") : s.check = .ok () := by
  simp [check, isProduction, h]

theorem check_eq_ok_iff_of_production {s : Settings} (h : s.appEnv = "prod") :
    s.check = .ok () ↔ s.lacks = [] := by
  unfold check
  simp only [isProduction, h, decide_true, Bool.not_true, Bool.false_eq_true, if_false]
  cases s.lacks <;> simp

/-- **What a production has to have.**  Only the exact names of the backends are looked at,
and blanks do not count as a token. -/
theorem lacks_eq_nil_iff {s : Settings} :
    s.lacks = [] ↔
      (Text.isBlankText s.slackToken = true →
        Text.isBlankText s.secretName = false ∧ Text.isBlankText s.vaultToken = false ∧
          beginsWith "https://" s.vaultAddress = true) ∧
      (s.storeBackend = "sqlite" → beginsWith "/" s.appDb = true) ∧
      s.storeBackend ≠ "memory" := by
  unfold lacks
  simp only [List.append_eq_nil_iff, ite_eq_right_iff, List.cons_ne_nil, imp_false,
    Bool.and_eq_true, Bool.not_eq_true', decide_eq_true_eq]
  cases Text.isBlankText s.slackToken <;> cases Text.isBlankText s.secretName <;>
    cases Text.isBlankText s.vaultToken <;> cases beginsWith "https://" s.vaultAddress <;>
    simp

end Tombola.Settings
