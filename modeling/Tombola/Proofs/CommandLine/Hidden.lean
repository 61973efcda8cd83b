import Tombola.Proofs.CommandLine.Endings
import Tombola.Proofs.Service.Hidden
/-!
# Neither requests nor invocations tell the token

`run` does not ask for the expected token at all, and `check-token` tells where it is from and how
long it is.  So two environments that are equal but for the token (`World.Twins`) cannot be told
apart by invocations, unless one of these is `check-token` and the tokens are of different length.
Together with `serve_twins` this is all that leaves the program: the token is revealed by
comparison, and its length by `check-token`, and nothing else of it is.

Main statements:

* `run_twins`, `checkToken_twins`: the two commands;
* `invokeAll_twins`: invocations one after another;
* `token_hidden`: requests and invocations in two such environments.
-/

namespace Tombola.CommandLine

open Groups Token

/-! ## 1. The two commands -/

/-- What goes on from one invocation to the next in two environments, equal but for the token. -/
structure World.Twins (t t' : String) (settings : Except Settings.Faults Settings)
    (w w' : World) : Prop where
  table : w.table = w'.table
  disk : w.disk = w'.disk
  server : ∀ s p, settings = .ok s → Provider.ofSettings s = .ok p →
    (Provider.Memory.mk none w.server).Twins t t' p (.mk none w'.server)

variable {t t' : String} {g g' : Setting} {s s' : Settings} {w w' : World} {job : Job}

/-- **`run` does not ask for the token.** -/
theorem run_twins (hshuffle : g.shuffle = g'.shuffle) (hs : s.Twins t t' s')
    (h : w.Twins t t' (.ok s) w') :
    (run g s job w).1 = (run g' s' job w').1 ∧
      (run g s job w).2.Twins t t' (.ok s) (run g' s' job w').2 := by
  obtain ⟨hname, hbackend, hpath, -⟩ := hs.others
  unfold run
  simp only [hname, hbackend, hpath, hshuffle, h.table, h.disk]
  cases Backend.ofName s'.storeBackend s'.appDb with
  | error e => exact ⟨rfl, h⟩
  | ok b =>
    simp only
    split
    · exact ⟨rfl, rfl, rfl, h.server⟩
    · exact ⟨rfl, rfl, rfl, h.server⟩

/-- **`check-token` tells the length of the token** and where it is from, and no more.  With tokens
of one length, in the settings or from the server, two runs write the same. -/
theorem checkToken_twins (ht : t ≠ "") (ht' : t' ≠ "") (hlength : t.length = t'.length)
    (hs : s.Twins t t' s') (h : w.Twins t t' (.ok s) w') :
    (checkToken s w).1 = (checkToken s' w').1 ∧
      (checkToken s w).2.Twins t t' (.ok s) (checkToken s' w').2 := by
  unfold checkToken
  rcases Provider.ofSettings_twins ht ht' hs with ⟨fault, hp, hp'⟩ | ⟨p, p', hp, hp', htwins⟩
  · rw [hp, hp']
    exact ⟨rfl, h⟩
  · obtain ⟨hfound, hkept⟩ := Provider.lookup_twins 0 htwins (h.server s p rfl hp)
    simp only [hp, hp']
    rcases hl : p.lookup 0 ⟨none, w.server⟩ with ⟨found, keeper⟩
    rcases hl' : p'.lookup 0 ⟨none, w'.server⟩ with ⟨found', keeper'⟩
    rw [hl, hl'] at hfound hkept
    have hsource : p.source = p'.source := by
      cases htwins <;> rfl
    have hworlds : World.Twins t t' (.ok s) { w with server := keeper.server }
        { w' with server := keeper'.server } := by
      refine ⟨h.table, h.disk, ?_⟩
      rintro _ q ⟨⟩ hq
      obtain rfl := Except.ok.inj (hp.symm.trans hq)
      exact ⟨.same none, hkept.asked, hkept.scripts⟩
    rcases found with f | x
    · obtain rfl : found' = .error f := by
        cases hfound
        rfl
      cases f <;> exact ⟨rfl, hworlds⟩
    · rcases found' with f' | x'
      · cases hfound
      · have hlen : x.length = x'.length := by
          cases hfound with
          | same => rfl
          | tokens => rw [Text.length_ofString, Text.length_ofString, String.length_toList,
              String.length_toList, hlength]
        simp only [hsource, hlen]
        exact ⟨trivial, hworlds⟩

/-! ## 2. Invocations -/

/-- The command that arguments lead to, if they lead to one. -/
def subcommand? (args : List String) : Option Subcommand :=
  match Page.choice.rules.scan args with
  | .error _ => none
  | .ok scan => if scan.has "--help" then none else scan.words.head?.bind Subcommand.ofName?

/-- **Whether invocations do not tell the lengths apart:** there is no difference, or the arguments
do not lead to `check-token`. -/
def KeepsLength (t t' : String) (args : List String) : Prop :=
  t.length = t'.length ∨ subcommand? args ≠ some .checkToken

section Invocations

variable (ht : t ≠ "") (ht' : t' ≠ "") (hshuffle : g.shuffle = g'.shuffle)
  (hlog : g.setLog = g'.setLog)
  (hs : Settings.ReadTwins t t' (Settings.read g.sources) (Settings.read g'.sources))

include ht ht' hshuffle hs

theorem perform_twins {c : Subcommand} (hlength : t.length = t'.length ∨ c ≠ .checkToken)
    (args : List String) (h : w.Twins t t' (Settings.read g.sources) w') :
    (perform g c args w).1 = (perform g' c args w').1 ∧
      (perform g c args w).2.Twins t t' (Settings.read g.sources) (perform g' c args w').2 := by
  unfold perform
  generalize Settings.read g.sources = settings, Settings.read g'.sources = settings' at hs h ⊢
  simp only
  split
  · exact ⟨rfl, h⟩
  · split
    · exact ⟨rfl, h⟩
    · cases c with
      | checkToken =>
        simp only
        split
        · exact ⟨rfl, h⟩
        · cases hs with
          | faults faults => exact ⟨rfl, h⟩
          | read hs =>
            exact checkToken_twins ht ht' (hlength.resolve_right fun hn => hn rfl) hs h
      | run =>
        cases hs with
        | faults faults => exact ⟨rfl, h⟩
        | read hs => exact run_twins hshuffle hs h

include hlog

theorem withLog_twins {c : Subcommand} (hlength : t.length = t'.length ∨ c ≠ .checkToken)
    (asked : Option String) (args : List String) (h : w.Twins t t' (Settings.read g.sources) w') :
    (withLog g asked c args w).1 = (withLog g' asked c args w').1 ∧
      (withLog g asked c args w).2.Twins t t' (Settings.read g.sources)
        (withLog g' asked c args w').2 := by
  have hlevel : levelOf g asked = levelOf g' asked := by
    simp only [levelOf, hs.logLevel]
  obtain ⟨hending, hworlds⟩ := perform_twins ht ht' hshuffle hs hlength args h
  unfold withLog
  rw [hlevel, hlog]
  split
  · exact ⟨rfl, h⟩
  · split
    · exact ⟨rfl, h⟩
    · simp only [hending]
      exact ⟨trivial, hworlds⟩

/-- **An invocation comes to the same,** unless it tells the lengths of the tokens apart. -/
theorem invoke_twins {args : List String} (hlength : KeepsLength t t' args)
    (h : w.Twins t t' (Settings.read g.sources) w') :
    (invoke g args w).1 = (invoke g' args w').1 ∧
      (invoke g args w).2.Twins t t' (Settings.read g.sources) (invoke g' args w').2 := by
  unfold KeepsLength subcommand? at hlength
  unfold invoke
  split
  · exact ⟨rfl, h⟩
  · cases hscan : Page.choice.rules.scan args with
    | error fault => exact ⟨rfl, h⟩
    | ok scan =>
      simp only [hscan] at hlength ⊢
      split
      · exact ⟨rfl, h⟩
      · rename_i hhelp
        rw [if_neg hhelp] at hlength
        cases hwords : scan.words with
        | nil => exact ⟨rfl, h⟩
        | cons name rest =>
          rw [hwords, List.head?_cons, Option.bind_some] at hlength
          simp only
          cases hname : Subcommand.ofName? name with
          | none => exact ⟨rfl, h⟩
          | some c =>
            have hc : t.length = t'.length ∨ c ≠ .checkToken :=
              hlength.imp_right fun hn hc => hn (by rw [hname, hc])
            exact withLog_twins ht ht' hshuffle hlog hs hc _ rest h

/-- **Invocations one after another come to the same,** by induction on the list: each leaves worlds
that are twins again, because the groups do not depend on the token. -/
theorem invokeAll_twins {invocations : List (List String)}
    (hlength : ∀ args ∈ invocations, KeepsLength t t' args)
    (h : w.Twins t t' (Settings.read g.sources) w') :
    (invokeAll g invocations w).1 = (invokeAll g' invocations w').1 ∧
      (invokeAll g invocations w).2.Twins t t' (Settings.read g.sources)
        (invokeAll g' invocations w').2 := by
  induction invocations generalizing w w' with
  | nil => exact ⟨rfl, h⟩
  | cons args invocations ih =>
    obtain ⟨houtcome, hnext⟩ :=
      invoke_twins ht ht' hshuffle hlog hs (hlength args List.mem_cons_self) h
    obtain ⟨houtcomes, hlast⟩ :=
      ih (fun args hargs => hlength args (List.mem_cons_of_mem _ hargs)) hnext
    exact ⟨congrArg₂ (· :: ·) houtcome houtcomes, hlast⟩

end Invocations

/-- `run` does not tell the lengths of the tokens apart, whatever its arguments are. -/
theorem keepsLength_run (t t' : String) (args : List String) :
    KeepsLength t t' ("run" :: args) := by
  have hscan : Page.choice.rules.scan ("run" :: args) = .ok ⟨[], "run" :: args⟩ :=
    scan_words rfl rfl args
  have hrun : subcommand? ("run" :: args) = some .run := by
    simp only [subcommand?, hscan]
    rfl
  exact .inr (by rw [hrun]; decide)

/-! ## 3. Two environments -/

/-- **The expected token is revealed through comparison only, and its length by `check-token`.**
Let two environments be equal but for the expected token, which is `t` in one and `t'` in the
other: in the settings, or in what the secret server replies.  Requests whose forms have `t`
exactly if they have `t'` are answered the same in both, and leave the same groups, whatever
befalls the parts of the service.  Invocations write the same, exit with the same codes and leave
the same groups, but for those of `check-token` if the tokens are of different length: those of
`run` always do. -/
theorem token_hidden {t t' : String} (ht : t ≠ "") (ht' : t' ≠ "")
    {sources sources' : Settings.Sources} {script script' : List Vault.Exchange}
    (hs : Settings.ReadTwins t t' (Settings.read sources) (Settings.read sources'))
    (hscripts : ∀ s p, Settings.read sources = .ok s → Provider.ofSettings s = .ok p →
      p.ScriptTwins t t' script script')
    (shuffle : Command.Shuffle) (contents : Backend.Contents) :
    (∀ requests : List (Service.Disturbance × Service.Request),
      (∀ x ∈ requests, (Form.ofOctets x.2.body).value "token" = t ↔
        (Form.ofOctets x.2.body).value "token" = t') →
      let run := Service.serve ⟨Settings.read sources, shuffle⟩ requests
        ⟨0, ⟨none, .init script⟩, contents⟩
      let run' := Service.serve ⟨Settings.read sources', shuffle⟩ requests
        ⟨0, ⟨none, .init script'⟩, contents⟩
      run.1 = run'.1 ∧ run.2.contents = run'.2.contents) ∧
    (∀ (setLog : String → Except Failure Unit) (invocations : List (List String)),
      (∀ args ∈ invocations, KeepsLength t t' args) →
      let typed := invokeAll ⟨sources, shuffle, setLog⟩ invocations
        ⟨contents.table, contents.disk, .init script⟩
      let typed' := invokeAll ⟨sources', shuffle, setLog⟩ invocations
        ⟨contents.table, contents.disk, .init script'⟩
      typed.1 = typed'.1 ∧ typed.2.table = typed'.2.table ∧ typed.2.disk = typed'.2.disk) ∧
    ∀ args, KeepsLength t t' ("run" :: args) := by
  have hkept (s : Settings) (p : Provider) (hread : Settings.read sources = .ok s)
      (hp : Provider.ofSettings s = .ok p) :
      (Provider.Memory.mk none (.init script)).Twins t t' p (.mk none (.init script')) :=
    ⟨.same none, rfl, hscripts s p hread hp⟩
  have hstate : Service.State.Twins t t' (Settings.read sources)
      ⟨0, ⟨none, .init script⟩, contents⟩ ⟨0, ⟨none, .init script'⟩, contents⟩ := ⟨rfl, hkept, rfl⟩
  have hworld : World.Twins t t' (Settings.read sources)
      ⟨contents.table, contents.disk, .init script⟩
      ⟨contents.table, contents.disk, .init script'⟩ := ⟨rfl, rfl, hkept⟩
  refine ⟨?_, ?_, keepsLength_run t t'⟩
  · intro requests hgiven run run'
    have hshuffle : (Service.Setting.mk (Settings.read sources) shuffle).shuffle
        = (Service.Setting.mk (Settings.read sources') shuffle).shuffle := rfl
    have hserve : run.1 = run'.1 ∧ run.2.Twins t t' (Settings.read sources) run'.2 :=
      Service.serve_twins ht ht' hshuffle hs hgiven hstate
    exact ⟨hserve.1, hserve.2.contents⟩
  · intro setLog invocations hlength typed typed'
    have hshuffle : (Setting.mk sources shuffle setLog).shuffle
        = (Setting.mk sources' shuffle setLog).shuffle := rfl
    have htyped : typed.1 = typed'.1 ∧ typed.2.Twins t t' (Settings.read sources) typed'.2 :=
      invokeAll_twins ht ht' hshuffle rfl hs hlength hworld
    exact ⟨htyped.1, htyped.2.table, htyped.2.disk⟩

def tokenVars (token : String) : List (String × String) :=
  Settings.assign "SLACK_TOKEN" token [("SLACK_TOKEN", "")]

theorem readTwins_tokenVars (t t' : String) :
    Settings.ReadTwins t t' (Settings.read ⟨tokenVars t, none⟩)
      (Settings.read ⟨tokenVars t', none⟩) :=
  Settings.readTwins_assign ⟨_, List.mem_singleton_self _, rfl⟩ rfl

def replyWith (secret : String) : Vault.Exchange :=
  .reply 200 (Utf8.encode ("\x7b\"data\": \x7b\"data\": \x7b\"value\": \"" ++ secret
    ++ "\"\x7d\x7d\x7d"))

def answers (sources : Settings.Sources) (script : List Vault.Exchange) :
    List (Except Service.Escape Service.Response) :=
  (Service.serve ⟨Settings.read sources, id⟩
    [(.none, Service.gateRequest), (.none, Service.otherRequest)]
    ⟨0, ⟨none, .init script⟩, .empty ⟨[], []⟩⟩).1

def outcomes (sources : Settings.Sources) (script : List Vault.Exchange) : List Outcome :=
  (invokeAll ⟨sources, id, fun _ => .ok ()⟩ [["run", "a", "b"], ["check-token"]]
    ⟨[], ⟨[], []⟩, .init script⟩).1

/-- Two tokens of three letters, in the settings and on the secret server. -/
theorem token_hidden_red :
    let fixed (token : String) : Settings.Sources := ⟨tokenVars token, none⟩
    let remote : Settings.Sources := ⟨secretVars "v", none⟩
    (answers (fixed "red") [] = answers (fixed "sea") [] ∧
        outcomes (fixed "red") [] = outcomes (fixed "sea") []) ∧
      answers remote [replyWith "red"] = answers remote [replyWith "sea"] ∧
        outcomes remote [replyWith "red"] = outcomes remote [replyWith "sea"] := by
  intro fixed remote
  have hgate : (Form.ofOctets Service.gateRequest.body).value "token" = "x" := by decide +kernel
  have hother : (Form.ofOctets Service.otherRequest.body).value "token" = "y" := by decide +kernel
  have hgiven : ∀ x ∈ [(Service.Disturbance.none, Service.gateRequest),
      (Service.Disturbance.none, Service.otherRequest)],
      (Form.ofOctets x.2.body).value "token" = "red" ↔
        (Form.ofOctets x.2.body).value "token" = "sea" := by
    intro x hx
    rcases List.mem_cons.mp hx with rfl | hx
    · simp only [hgate]
      decide
    · obtain rfl := List.mem_singleton.mp hx
      simp only [hother]
      decide
  have hlength : ∀ args ∈ [["run", "a", "b"], ["check-token"]], KeepsLength "red" "sea" args :=
    fun _ _ => .inl (by decide)
  have hred : "red" ≠ "" := by decide
  have hsea : "sea" ≠ "" := by decide
  constructor
  · have h := token_hidden hred hsea (readTwins_tokenVars "red" "sea")
      (fun _ p _ _ => Provider.ScriptTwins.refl [] p) id (.empty ⟨[], []⟩)
    exact ⟨(h.1 _ hgiven).1, (h.2.1 (fun _ => .ok ()) _ hlength).1⟩
  · have hjudged (token : String) (h : token = "red" ∨ token = "sea") :
        Service.gateClient.judge "slack" none (replyWith token) = .ok (Text.ofString token) := by
      rcases h with rfl | rfl
      · exact ok_of_toOption (by decide +kernel)
      · exact ok_of_toOption (by decide +kernel)
    have hscripts : ∀ s p, Settings.read remote = .ok s → Provider.ofSettings s = .ok p →
        p.ScriptTwins "red" "sea" [replyWith "red"] [replyWith "sea"] := by
      intro s p hread hp
      obtain rfl := Except.ok.inj ((read_secretVars "v").symm.trans hread)
      have hprovider : Provider.ofSettings { Service.gateSettings with vaultToken := "v" }
          = .ok (.remote Service.gateClient "slack" 120.0) := rfl
      obtain rfl := Except.ok.inj (hprovider.symm.trans hp)
      intro n
      have hfirst (e : Vault.Exchange) : Vault.Server.exchange [e] n = e := by
        cases n <;> rfl
      rw [hfirst, hfirst]
      exact .inr ⟨hjudged "red" (.inl rfl), hjudged "sea" (.inr rfl)⟩
    have hs : Settings.ReadTwins "red" "sea" (Settings.read remote) (Settings.read remote) := by
      have hread : Settings.read remote = _ := read_secretVars "v"
      rw [hread]
      exact .read (.same _)
    have h := token_hidden hred hsea hs hscripts id (.empty ⟨[], []⟩)
    exact ⟨(h.1 _ hgiven).1, (h.2.1 (fun _ => .ok ()) _ hlength).1⟩

end Tombola.CommandLine
