import Tombola.Log.Level
import Tombola.Proofs.CommandLine.Agreement
import Tombola.Proofs.Service.Asking
/-!
# How invocations end

With settings that parse, an invocation does what it is asked to and reports how that went: it
exits with 0 and writes the result, or it exits with 1 and says what is wrong.  There is one
accident for each of the two commands.

* `run` takes the store that the settings name before it begins to report errors.  A name that
  stands for no store is an error of ours, and escapes.
* `check-token` reports errors of ours only.  A lookup that stumbles, because the client's
  address or token cannot be sent or the address names no server, fails with another one.

A third accident is left out.  What holds a lone surrogate cannot be written as it is, so `run`
without JSON lets an error escape if such a text is in what it shows.  The words are strings, which
hold none, and the table is taken to be whole (`Table.IsWhole`), as commands leave it
(`isWhole_run`).

Main statements:

* `reported_report`: what is written about a command says how it went;
* `run_of_noBackend`, `checkToken_stumbles`: the accidents;
* `invocations_end`: that there are no others.
-/

namespace Tombola.CommandLine

open Groups Command Token

/-! ## 1. What is written about a command -/

/-- **A result that is reported,** as a text or as JSON: with the code 0 and what was done, or with
the code 1 and what is wrong. -/
inductive Reported : Bool → Except DrawError Reply → Output → Prop where
  | message (reply : Reply) : Reported false (.ok reply) ⟨0, line reply.message, ""⟩
  | help (e : DrawError) : Reported false (.error e) ⟨1, "", line e.help⟩
  | reply {reply : Reply} {out : String} {v : Json.Value}
      (hread : Json.read (Text.ofString out) = .ok v)
      (hok : v.field? (Text.ofString "ok") = some (.bool true))
      (hkind : v.field? (Text.ofString "kind") = some (.ofString reply.kind.name))
      (hmessage : v.field? (Text.ofString "message") = some (.ofString reply.message))
      (hoptions : v.field? (Text.ofString "options") = some (.ofStrings reply.options)) :
      Reported true (.ok reply) ⟨0, out, ""⟩
  | error {e : DrawError} {out : String} {v : Json.Value}
      (hread : Json.read (Text.ofString out) = .ok v)
      (hok : v.field? (Text.ofString "ok") = some (.bool false))
      (herror : v.field? (Text.ofString "error") = some (.ofString e.help))
      (hcause : v.field? (Text.ofString "cause") = some (.ofString e.cause)) :
      Reported true (.error e) ⟨1, out, ""⟩

theorem reported_report (json : Bool) (result : Except DrawError Reply) :
    Reported json result (report json result) := by
  cases json with
  | false =>
    cases result with
    | ok reply => exact .message reply
    | error e => exact .help e
  | true =>
    cases result with
    | ok reply =>
      have hfield (k : String) := Json.Value.field?_ofFields k
        [("ok", .bool true), ("kind", .ofString reply.kind.name),
          ("message", .ofString reply.message), ("options", .ofStrings reply.options)]
      exact .reply (read_line (isPlain_replyJson reply)) (hfield "ok") (hfield "kind")
        (hfield "message") (hfield "options")
    | error e =>
      have hfield (k : String) := Json.Value.field?_ofFields k
        [("ok", .bool false), ("error", .ofString e.help), ("cause", .ofString e.cause)]
      exact .error (read_line (isPlain_errorJson e)) (hfield "ok") (hfield "error")
        (hfield "cause")

variable {g : Setting} {s : Settings} {w : World}

/-- **With a store the result of a command is reported.** -/
theorem run_of_backend {b : Backend} (hb : Backend.ofName s.storeBackend s.appDb = .ok b)
    (job : Job) :
    ∃ result after, (Command.perform s.commandName g.shuffle job.words).run
        (b.store false job.partition) ⟨[], w.table, w.disk⟩ = (some result, after) ∧
      (run g s job w).1 = .exited (report job.json result) := by
  have hreplied (c : Call) (contents : Backend.Contents) :
      ∃ r, (b.store false job.partition c contents).1 = .replied r := by
    cases b with
    | memory => cases c <;> exact ⟨_, rfl⟩
    | table path => exact Backend.store_table_replied
  obtain ⟨result, after, hrun⟩ := Dialogue.exists_run_eq_some hreplied
    (Command.perform s.commandName g.shuffle job.words) ⟨[], w.table, w.disk⟩
  refine ⟨result, after, hrun, ?_⟩
  simp only [run, hb, hrun]

/-- A command keeps the table whole. -/
theorem isWhole_run (h : w.table.IsWhole) (job : Job) : (run g s job w).2.table.IsWhole := by
  unfold run
  cases hb : Backend.ofName s.storeBackend s.appDb with
  | error fault => exact h
  | ok b =>
    have hbegin : (⟨[], w.table, w.disk⟩ : Backend.Contents).table.IsWhole := h
    have hrun := isWhole_perform b hbegin job.partition s.commandName g.shuffle job.words
      Faults.none
    rw [Dialogue.runWith_none] at hrun
    simp only
    generalize (Command.perform s.commandName g.shuffle job.words).run
      (b.store false job.partition) ⟨[], w.table, w.disk⟩ = out at hrun ⊢
    obtain ⟨_ | result, after⟩ := out <;> exact hrun

/-- **Without a store an error escapes,** and it is one of ours. -/
theorem run_of_noBackend {fault : ConfigFault}
    (hb : Backend.ofName s.storeBackend s.appDb = .error fault) (job : Job) :
    (run g s job w).1 = .failed (.ours (.config fault)) := by
  simp only [run, hb]

theorem invoke_run_ending (hg : Settings.read g.sources = .ok s)
    (hlog : g.setLog s.logLevel = .ok ()) (json : Bool) (partition : Option String)
    (words : List String) :
    (invoke g ("run" :: arguments json partition words) w).1.ending =
      (run g s ⟨partition.getD "local", json, words⟩ w).1 := by
  rw [invoke_run hg hlog]

/-- **An invocation of `run` keeps the table whole,** so that the next one finds it whole. -/
theorem isWhole_invoke (hg : Settings.read g.sources = .ok s)
    (hlog : g.setLog s.logLevel = .ok ()) (hw : w.table.IsWhole) (json : Bool)
    (partition : Option String) (words : List String) :
    (invoke g ("run" :: arguments json partition words) w).2.table.IsWhole := by
  have hafter : (invoke g ("run" :: arguments json partition words) w).2 =
      (run g s ⟨partition.getD "local", json, words⟩ w).2 := by rw [invoke_run hg hlog]
  rw [hafter]
  exact isWhole_run hw _

/-! ## 2. What is written about the token -/

/-- **What is written about the expected token:** where it is from and how long it is, or why
there is none. -/
inductive TokenReported (s : Settings) (server : Vault.Server) : Output → Prop where
  | found {p : Provider} {t : Text} (hp : Provider.ofSettings s = .ok p)
      (ht : (p.lookup 0 ⟨none, server⟩).1 = .ok t) :
      TokenReported s server
        ⟨0, line ("source: " ++ p.source) ++ line ("length: " ++ toString t.length), ""⟩
  | unconfigured {fault : ConfigFault} (hp : Provider.ofSettings s = .error fault) :
      TokenReported s server
        ⟨1, "", line ("token unavailable: " ++ (DrawError.config fault).cause)⟩
  | unavailable {p : Provider} {e : DrawError} (hp : Provider.ofSettings s = .ok p)
      (he : (p.lookup 0 ⟨none, server⟩).1 = .error (.ours e)) :
      TokenReported s server ⟨1, "", line ("token unavailable: " ++ e.cause)⟩

/-- Whether the lookup of the expected token stumbles. -/
def TokenStumbles (s : Settings) (server : Vault.Server) : Prop :=
  ∃ p, Provider.ofSettings s = .ok p ∧ p.Stumbles 0 ⟨none, server⟩

/-- **A lookup that does not stumble is reported.** -/
theorem checkToken_reported (ho : w.server.next.isOrdinary = true)
    (hn : ¬ TokenStumbles s w.server) :
    ∃ out, (checkToken s w).1 = .exited out ∧ TokenReported s w.server out := by
  cases hp : Provider.ofSettings s with
  | error fault =>
    refine ⟨_, ?_, .unconfigured hp⟩
    simp only [checkToken, hp, unavailable]
  | ok p =>
    cases hl : (p.lookup 0 ⟨none, w.server⟩).1 with
    | ok t =>
      refine ⟨_, ?_, .found hp hl⟩
      simp only [checkToken, hp, hl, Ending.done]
    | error f =>
      rcases Provider.lookup_error ho hl with hs | ⟨fault, rfl⟩
      · exact absurd ⟨p, hp, hs⟩ hn
      · refine ⟨_, ?_, .unavailable hp hl⟩
        simp only [checkToken, hp, hl, unavailable]

/-- **A lookup that stumbles lets an error escape,** and it is none of ours.  So it is not among
those that the command reports. -/
theorem checkToken_stumbles (h : TokenStumbles s w.server) :
    ∃ f, (checkToken s w).1 = .failed f ∧ f.isOurs = false := by
  obtain ⟨p, hp, hs⟩ := h
  obtain ⟨f, hf, hours, -⟩ := hs.lookup
  refine ⟨f, ?_, hours⟩
  simp only [checkToken, hp, hf]
  cases f with
  | ours e => cases hours
  | _ => rfl

theorem invoke_checkToken (hg : Settings.read g.sources = .ok s)
    (hlog : g.setLog s.logLevel = .ok ()) :
    (invoke g ["check-token"] w).1.ending = (checkToken s w).1 := by
  have hscan : (Page.command .checkToken).rules.scan [] = .ok ⟨[], []⟩ := rfl
  rw [invoke_command (c := .checkToken) (by decide) (by decide) hg hlog]
  simp only [perform, hscan, Scan.has, List.any_nil, Bool.false_eq_true, if_false, hg, ne_eq,
    not_true_eq_false]

/-! ## 3. Invocations -/

/-- **How invocations end.**  Let the settings parse and the log take their level, let the secret
server go by a script of ordinary exchanges, and let the table be whole: no row of it holds a lone
surrogate, which could not be written.  If the settings name a store, then `run` comes to a result,
with or without JSON, in any partition and whatever the words are, and reports it; else an error of
ours escapes.  The table is whole again, so this holds of one `run` after another.  Unless the
lookup of the expected token stumbles, `check-token` reports on it; else an error escapes that is
none of ours. -/
theorem invocations_end (hg : Settings.read g.sources = .ok s)
    (hlog : g.setLog s.logLevel = .ok ()) (ho : ∀ e ∈ w.server.script, e.isOrdinary = true)
    (hw : w.table.IsWhole) :
    (∀ json partition words,
      let called := invoke g ("run" :: arguments json partition words) w
      let ending := called.1.ending
      called.2.table.IsWhole ∧
      (∀ b, Backend.ofName s.storeBackend s.appDb = .ok b → ∃ result after out,
        (Command.perform s.commandName g.shuffle words).run
            (b.store false (partition.getD "local")) ⟨[], w.table, w.disk⟩
          = (some result, after) ∧
        ending = .exited out ∧ Reported json result out) ∧
      ∀ fault, Backend.ofName s.storeBackend s.appDb = .error fault →
        ending = .failed (.ours (.config fault))) ∧
    let ending := (invoke g ["check-token"] w).1.ending
    (¬ TokenStumbles s w.server → ∃ out, ending = .exited out ∧ TokenReported s w.server out) ∧
      (TokenStumbles s w.server → ∃ f, ending = .failed f ∧ f.isOurs = false) := by
  have hjob := invoke_run_ending (w := w) hg hlog
  have htoken := invoke_checkToken (w := w) hg hlog
  constructor
  · intro json partition words called ending
    have hends : ending = _ := hjob json partition words
    refine ⟨isWhole_invoke hg hlog hw json partition words, ?_, ?_⟩
    · intro b hb
      obtain ⟨result, after, hrun, hending⟩ :=
        run_of_backend (g := g) (w := w) hb ⟨partition.getD "local", json, words⟩
      exact ⟨result, after, report json result, hrun, hends.trans hending,
        reported_report json result⟩
    · intro fault hb
      exact hends.trans (run_of_noBackend hb _)
  · intro ending
    constructor
    · intro hn
      obtain ⟨out, hout, hreported⟩ :=
        checkToken_reported (Vault.Server.isOrdinary_next ho) hn
      exact ⟨out, htoken.trans hout, hreported⟩
    · intro hs
      obtain ⟨f, hf, hours⟩ := checkToken_stumbles hs
      exact ⟨f, htoken.trans hf, hours⟩

/-! ## 4. Environments -/

/-- The program with some variables and without an environment file. -/
def settingOf (vars : List (String × String)) : Setting :=
  ⟨⟨vars, none⟩, List.reverse, fun level => (Log.Config.make level none vars).map fun _ => ()⟩

/-- Nothing saved, an empty disk, and a server with a script. -/
def World.init (script : List Vault.Exchange) : World := ⟨[], ⟨[], []⟩, .init script⟩

/-- Variables that name a secret, and what the client shows to the server. -/
def secretVars (token : String) : List (String × String) :=
  [("SLACK_TOKEN_SECRET_NAME", "slack"), ("STORE_BACKEND", "memory"),
    ("VAULT_ADDR", "https://vault"), ("VAULT_TOKEN", token)]

theorem read_secretVars (token : String) :
    Settings.read (settingOf (secretVars token)).sources =
      .ok { Service.gateSettings with vaultToken := token } := by
  have hnames : Text.inSmall "SLACK_TOKEN_SECRET_NAME" = "slack_token_secret_name" ∧
      Text.inSmall "STORE_BACKEND" = "store_backend" ∧ Text.inSmall "VAULT_ADDR" = "vault_addr" ∧
      Text.inSmall "VAULT_TOKEN" = "vault_token" := by decide
  have hfolded : Settings.folded (settingOf (secretVars token)).sources.environment
      = [("slack_token_secret_name", "slack"), ("store_backend", "memory"),
          ("vault_addr", "https://vault"), ("vault_token", token)] := by
    simp [settingOf, Settings.folded, secretVars, hnames, Entries.put]
  simp only [Settings.read, Settings.Sources.look, hfolded]
  rfl

theorem setLog_info (vars : List (String × String)) : (settingOf vars).setLog "INFO" = .ok () := by
  have hlevel : Log.Level.ofName "INFO" = .ok Log.Level.info := rfl
  simp only [settingOf, Log.Config.make, hlevel, Except.map]

/-- Saving a group, a refusal of it and a server that does not answer are reported. -/
theorem invocations_end_secret :
    let g := settingOf (secretVars "v")
    let w := World.init [.raised (.transport .connectError "no connection")]
    (invoke g ["run", "--", "/save", "lunch", "a", "b"] w).1.ending
        = .exited ⟨0, line "Done! The *lunch* group now has these options:\n• a\n• b", ""⟩ ∧
      (∃ out v, (invoke g ["run", "--json", "--", "/save", "lunch", "a"] w).1.ending
          = .exited ⟨1, out, ""⟩ ∧ Json.read (Text.ofString out) = .ok v ∧
        v.field? (Text.ofString "ok") = some (.bool false)) ∧
      ∃ e : DrawError, (invoke g ["check-token"] w).1.ending
        = .exited ⟨1, "", line ("token unavailable: " ++ e.cause)⟩ := by
  intro g w
  have hread := read_secretVars "v"
  have hordinary : ∀ e ∈ w.server.script, e.isOrdinary = true := by
    intro e he
    obtain rfl := List.mem_singleton.mp he
    rfl
  have hwhole : w.table.IsWhole := fun r hr => absurd hr List.not_mem_nil
  obtain ⟨hrun, hreported, -⟩ := invocations_end hread (setLog_info _) hordinary hwhole
  refine ⟨?_, ?_, ?_⟩
  · obtain ⟨result, after, out, hresult, hout, hrep⟩ :=
      (hrun false none ["/save", "lunch", "a", "b"]).2.1 .memory rfl
    cases hresult
    cases hrep
    exact hout
  · obtain ⟨result, after, out, hresult, hout, hrep⟩ :=
      (hrun true none ["/save", "lunch", "a"]).2.1 .memory rfl
    cases hresult
    cases hrep with
    | error hread hok => exact ⟨_, _, hout, hread, hok⟩
  · have hp : Provider.ofSettings Service.gateSettings
        = .ok (.remote Service.gateClient "slack" 120.0) := rfl
    obtain ⟨sent, hsent, hserver⟩ := Service.request_gateClient
    have hn : ¬ TokenStumbles Service.gateSettings w.server := by
      rintro ⟨p, hp', hs⟩
      obtain rfl := Except.ok.inj (hp.symm.trans hp')
      exact Vault.Client.not_stumbles_of_request hsent hserver hs.2
    obtain ⟨out, hout, hrep⟩ := hreported hn
    cases hrep with
    | found hp' ht =>
      obtain rfl := Except.ok.inj (hp.symm.trans hp')
      rw [Provider.lookup_of_invalid rfl] at ht
      cases Vault.Client.judge_of_read ht
    | unconfigured hp' => cases hp.symm.trans hp'
    | unavailable hp' he => exact ⟨_, hout⟩

/-- Variables that name a store that there is not. -/
def strayVars : List (String × String) := [("SLACK_TOKEN", "x"), ("STORE_BACKEND", "redis")]

def straySettings : Settings :=
  { Settings.default with slackToken := "x", storeBackend := "redis" }

theorem read_strayVars : Settings.read (settingOf strayVars).sources = .ok straySettings := by
  have hfolded : Settings.folded (settingOf strayVars).sources.environment
      = [("slack_token", "x"), ("store_backend", "redis")] := by
    simp only [settingOf, Settings.folded]
    decide
  simp only [Settings.read, Settings.Sources.look, hfolded]
  rfl

/-- **An invocation may end with an error that escapes:** `run` for a store that there is not, and
`check-token` for a token of the client that is not ASCII, though the settings parse. -/
theorem escapes_of_store_or_token :
    ((∃ s, Settings.read (settingOf strayVars).sources = .ok s ∧
          (settingOf strayVars).setLog s.logLevel = .ok ()) ∧
        ∃ f, (invoke (settingOf strayVars) ["run", "--", "/list"] (.init [])).1.ending
          = .failed f) ∧
      (∃ s, Settings.read (settingOf (secretVars "é")).sources = .ok s ∧
          (settingOf (secretVars "é")).setLog s.logLevel = .ok ()) ∧
        ∃ f, (invoke (settingOf (secretVars "é")) ["check-token"] (.init [])).1.ending
          = .failed f := by
  refine ⟨⟨⟨_, read_strayVars, setLog_info _⟩, ?_⟩, ⟨_, read_secretVars "é", setLog_info _⟩, ?_⟩
  · have hstore : Backend.ofName straySettings.storeBackend straySettings.appDb
        = .error (.unknownBackend "redis") := rfl
    have hending := invoke_run_ending (w := .init []) read_strayVars (setLog_info _) false none
      ["/list"]
    rw [run_of_noBackend hstore] at hending
    exact ⟨_, hending⟩
  · have hstumbles : TokenStumbles { Service.gateSettings with vaultToken := "é" } (.init []) :=
      ⟨.remote ⟨"https://vault", "secret", "value", "é"⟩ "slack" 120.0, rfl, rfl,
        Vault.Client.stumbles_of_notAscii rfl⟩
    obtain ⟨f, hf, -⟩ := checkToken_stumbles (w := .init []) hstumbles
    exact ⟨f, (invoke_checkToken (read_secretVars "é") (setLog_info _)).trans hf⟩

end Tombola.CommandLine
