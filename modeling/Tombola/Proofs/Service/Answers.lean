import Tombola.Service.Start
import Tombola.Proofs.Service.Gates
import Tombola.Proofs.Token.Lookups
/-!
# Once started, the service answers

A service that started has settings, a provider of the expected token and a store.  From then
on every request is answered, but for two accidents at the gates of an admitted command:

* the lookup of the expected token stumbles: the client's address or token cannot be sent, or
  the address names no server.  This is not taken for a token that is not available, since the
  service expects errors of ours alone;
* the expected token is no string, and the form has a token to compare with it.

`Unanswered` says this of one command, and `escapes_iff` that there is nothing else.  A lookup
that fails without stumbling is answered as a token that is not available.  Where the provider
cannot stumble and gives strings, no request of a run is left without an answer.

Main statements:

* `Fate.escapes_iff`, `escapes_iff`: when an error escapes;
* `serve_keeps`: what the provider keeps in a run;
* `answered_unless_unjudged`: both, for all runs of a service that started.
-/

namespace Tombola.Service

open Groups Token

/-! ## 1. What escapes of an admitted command -/

/-- A token cannot be judged if the expected one is no string. -/
theorem judge_eq_error_iff {given : String} {t : Text} :
    (∃ f, judge given t = .error f) ↔ given ≠ "" ∧ ¬ ∃ secret, t = Text.ofString secret := by
  constructor
  · rintro ⟨f, hf⟩
    refine ⟨?_, ?_⟩
    · rintro rfl
      rw [judge_empty] at hf
      cases hf
    · rintro ⟨secret, rfl⟩
      by_cases hg : given = ""
      · rw [hg, judge_empty] at hf
        cases hf
      · rw [judge_ofString hg] at hf
        cases hf
  · rintro ⟨hg, ht⟩
    exact judge_of_not_string hg ht

/-- The answer where the expected token is not available. -/
def tokenUnavailable : Response := .json 500 (texts [("error", "token_unavailable")])

theorem unavailable_of_ours (e : DrawError) : unavailable (.ours e) = .ok tokenUnavailable := rfl

theorem unavailable_of_other {f : Failure} (ho : f.isOurs = false) (ht : f.isTimeout = false) :
    unavailable f = .error (.failure f) := by
  simp [unavailable, ho, ht]

section Admitted

variable {g : Setting} {s : Settings} {d : Disturbance} {now : Float} {form : Form} {st st' : State}
  {a : Except Escape Response} {p : Provider}

/-- Where nothing befalls the provider, the expected token is looked up. -/
theorem expected_eq (hd : d.provider = none) (hp : Provider.ofSettings s = .ok p)
    (m : Provider.Memory) : expected s d now m = p.lookup now m := by
  simp only [expected, hd, hp]

/-- **Why there is no answer to a form:** the lookup of the expected token stumbles, or its
token is to be compared with what is no string. -/
def Unjudged (p : Provider) (now : Float) (form : Form) (m : Provider.Memory) : Prop :=
  p.Stumbles now m ∨ form.value "token" ≠ "" ∧
    ∃ t, (p.lookup now m).1 = .ok t ∧ ¬ ∃ secret, t = Text.ofString secret

theorem not_unjudged_of_judge {t : Text} {keeper : Provider.Memory} {right : Bool}
    (hl : p.lookup now st.keeper = (.ok t, keeper))
    (hj : judge (form.value "token") t = .ok right) : ¬ Unjudged p now form st.keeper := by
  rintro (hs | ⟨hg, t', ht', hstring⟩)
  · obtain ⟨f, hf, -⟩ := hs.lookup
    rw [hl] at hf
    cases hf
  · rw [hl] at ht'
    obtain rfl := Except.ok.inj ht'
    obtain ⟨f, hf⟩ := judge_eq_error_iff.mpr ⟨hg, hstring⟩
    rw [hj] at hf
    cases hf

/-- **When an error escapes of an admitted command**, if there is a provider and a store. -/
theorem Fate.escapes_iff (h : Fate g s d now form st a st') (hd : d.provider = none)
    (hp : Provider.ofSettings s = .ok p) {b : Backend}
    (hb : Backend.ofName s.storeBackend s.appDb = .ok b)
    (ho : st.keeper.server.next.isOrdinary = true) :
    (∃ e, a = .error e) ↔
      form.value "ssl_check" ≠ "1" ∧ Unjudged p now form st.keeper := by
  cases h with
  | check hs => exact iff_of_false nofun fun e => e.1 hs
  | @unknown f keeper hs he =>
    rw [expected_eq hd hp] at he
    have hl : (p.lookup now st.keeper).1 = .error f := by rw [he]
    rcases Provider.lookup_error ho hl with hstumbles | ⟨fault, rfl⟩
    · obtain ⟨f', hf', hours, htime⟩ := hstumbles.lookup
      obtain rfl := Except.error.inj (hl.symm.trans hf')
      rw [unavailable_of_other hours htime]
      exact iff_of_true ⟨_, rfl⟩ ⟨hs, .inl hstumbles⟩
    · rw [unavailable_of_ours]
      refine iff_of_false nofun ?_
      rintro ⟨-, hstumbles | ⟨-, t, ht, -⟩⟩
      · obtain ⟨f', hf', hours, -⟩ := hstumbles.lookup
        obtain rfl := Except.error.inj (hl.symm.trans hf')
        cases hours
      · rw [hl] at ht
        cases ht
  | unjudged hs he hj =>
    rw [expected_eq hd hp] at he
    obtain ⟨hg, hstring⟩ := judge_eq_error_iff.mp ⟨_, hj⟩
    exact iff_of_true ⟨_, rfl⟩ ⟨hs, .inr ⟨hg, _, by rw [he], hstring⟩⟩
  | forbidden hs he hj =>
    rw [expected_eq hd hp] at he
    exact iff_of_false nofun fun e => not_unjudged_of_judge he hj e.2
  | storeless hs he hj hb' =>
    rw [hb] at hb'
    cases hb'
  | done hs he hj =>
    rw [expected_eq hd hp] at he
    exact iff_of_false nofun fun e => not_unjudged_of_judge he hj e.2

/-- **A token that is not available** is answered, unless the lookup stumbles. -/
theorem Fate.tokenUnavailable (h : Fate g s d now form st a st') (hd : d.provider = none)
    (hp : Provider.ofSettings s = .ok p) (ho : st.keeper.server.next.isOrdinary = true)
    (hs : form.value "ssl_check" ≠ "1") (hn : ¬ p.Stumbles now st.keeper) {f : Failure}
    (hf : (p.lookup now st.keeper).1 = .error f) : a = .ok Service.tokenUnavailable := by
  have hknown {t : Text} {keeper : Provider.Memory}
      (he : expected s d now st.keeper = (.ok t, keeper)) : False := by
    rw [expected_eq hd hp] at he
    rw [he] at hf
    cases hf
  cases h with
  | check hc => exact absurd hc hs
  | unknown _ he =>
    rw [expected_eq hd hp] at he
    rw [he] at hf
    obtain rfl := Except.error.inj hf
    rcases Provider.lookup_error ho (by rw [he]) with hstumbles | ⟨fault, rfl⟩
    · exact absurd hstumbles hn
    · rfl
  | unjudged _ he | forbidden _ he | storeless _ he | done _ he => exact (hknown he).elim

/-- A command leaves to the provider what was kept, or what the lookup leaves. -/
theorem Fate.keeper (h : Fate g s d now form st a st') :
    st'.keeper = st.keeper ∨ st'.keeper = (expected s d now st.keeper).2 := by
  cases h with
  | check => exact .inl rfl
  | unknown _ he | unjudged _ he | forbidden _ he | storeless _ he | done _ he =>
    exact .inr (by rw [he])

end Admitted

/-! ## 2. What escapes of a request -/

/-- **A request that is left without an answer:** an admitted command that checks no
certificate, and whose token cannot be judged. -/
structure Unanswered (s : Settings) (p : Provider) (r : Request) (st : State) : Prop where
  command : r.isCommand = true
  admitted : s.rateLimit < 0 ∨ st.commands < s.rateLimit
  noCheck : (Form.ofOctets r.body).value "ssl_check" ≠ "1"
  unjudged : Unjudged p r.arrival (Form.ofOctets r.body) st.keeper

section Request

variable {g : Setting} {s : Settings} {d : Disturbance} {r : Request} {st : State} {p : Provider}
  {b : Backend} {path : List Char}

/-- **When an error escapes:** exactly if a request is left without an answer.  With a provider and
a store in the settings there is one way to be left so: an admitted command that checks no
certificate, and whose token cannot be judged. -/
theorem escapes_iff (hg : g.settings = .ok s) (hd : d.provider = none)
    (hpath : Place.pathOf r.target = .ok path) (hp : Provider.ofSettings s = .ok p)
    (hb : Backend.ofName s.storeBackend s.appDb = .ok b)
    (ho : st.keeper.server.next.isOrdinary = true) :
    (∃ e, (handle g d r st).1 = .error e) ↔ Unanswered s p r st := by
  cases h : r.isCommand with
  | false =>
    obtain ⟨response, hresponse⟩ : ∃ response, (handle g d r st).1 = .ok response :=
      (handle_other h).2 path hpath
    rw [hresponse]
    refine iff_of_false nofun fun hu => ?_
    rw [hu.command] at h
    cases h
  | true =>
    by_cases hl : s.rateLimit < 0 ∨ st.commands < s.rateLimit
    · rw [handle_admitted h hg hl]
      have hfate : Fate g s d r.arrival (Form.ofOctets r.body)
          { st with commands := st.commands + 1 } _ _ := fate_admitted
      refine (hfate.escapes_iff hd hp hb ho).trans ?_
      exact ⟨fun e => ⟨h, hl, e.1, e.2⟩, fun hu => ⟨hu.noCheck, hu.unjudged⟩⟩
    · rw [handle_limited h hg hl]
      exact iff_of_false nofun fun hu => hl hu.admitted

/-- What a property of the kept token survives, a request keeps of it. -/
theorem handle_keeps {P : Provider.Memory → Prop} (hg : g.settings = .ok s)
    (hP : ∀ m, P m → P (expected s d r.arrival m).2) (hst : P st.keeper) :
    P (handle g d r st).2.keeper := by
  cases h : r.isCommand with
  | false =>
    obtain ⟨contents, hother, -⟩ : ∃ contents, (handle g d r st).2 = _ ∧ _ := state_of_other h
    rw [hother]
    exact hst
  | true =>
    by_cases hl : s.rateLimit < 0 ∨ st.commands < s.rateLimit
    · rw [handle_admitted h hg hl]
      rcases (fate_admitted (g := g) (s := s) (d := d)).keeper with hk | hk
      · rw [hk]
        exact hst
      · rw [hk]
        exact hP _ hst
    · rw [handle_limited h hg hl]
      exact hst

end Request

/-! ## 3. Runs -/

section Run

variable {g : Setting} {s : Settings} {p : Provider} {Q : Text → Prop}
  {script : List Vault.Exchange} {st : State}

/-- What is kept of the tokens is kept whatever befalls the provider. -/
theorem expected_keeps {d : Disturbance} {now : Float} {m : Provider.Memory}
    (hp : Provider.ofSettings s = .ok p) (hy : p.Yields Q script) (hm : m.Keeps Q script) :
    (expected s d now m).2.Keeps Q script := by
  unfold expected
  split
  · exact hm
  · exact hm
  · rw [hp]
    exact Provider.lookup_keeps hy hm

/-- **What the provider keeps in a run:** after any requests the server goes by the same script,
and a token that is kept has the property of all that can be given. -/
theorem serve_keeps (hg : g.settings = .ok s) (hp : Provider.ofSettings s = .ok p)
    (hy : p.Yields Q script) (requests : List (Disturbance × Request))
    (hst : st.keeper.Keeps Q script) : (serve g requests st).2.keeper.Keeps Q script := by
  induction requests generalizing st with
  | nil => exact hst
  | cons x requests ih =>
    obtain ⟨d, r⟩ := x
    exact ih (handle_keeps hg (fun m hm => expected_keeps hp hy hm) hst)

end Run

/-- Whether a provider never stumbles over the exchanges of a script, and all the tokens that it
can give are strings. -/
def IsSafe (script : List Vault.Exchange) (p : Provider) : Prop :=
  (∀ now m, m.server.script = script → ¬ p.Stumbles now m) ∧
    p.Yields (fun t => ∃ secret, t = Text.ofString secret) script

/-- A fixed token is safe. -/
theorem isSafe_fixed (script : List Vault.Exchange) (token : String) :
    IsSafe script (.fixed token) :=
  ⟨fun _ _ _ h => h, token, rfl⟩

/-- A secret is safe whose request can be sent to a server, and which is a string in all the
replies of the script. -/
theorem isSafe_remote {script : List Vault.Exchange} {client : Vault.Client} {name : String}
    {ttl : Float} {r : Vault.Client.Request} (hr : client.request name = .ok r)
    (hserver : r.serverless = none)
    (hstring : ∀ e ∈ script, ∀ t, client.judge name none e = .ok t →
      ∃ secret, t = Text.ofString secret) :
    IsSafe script (.remote client name ttl) :=
  ⟨fun _ _ _ h => Vault.Client.not_stumbles_of_request hr hserver h.2, hstring⟩

/-- **A service that started answers, unless a token cannot be judged.**  Let the exchanges with
the secret server be such as any server may give.  In any run, a request that can be read is left
without an answer exactly if it is `Unanswered`; an admitted command that checks no certificate
is answered that the token is unavailable, if the lookup fails and does not stumble; and with a
safe provider all requests of a run are answered. -/
theorem answered_unless_unjudged {s : Settings} {environment : List (String × String)}
    {started : Started} (h : startWith s environment = .ok started) (shuffle : Command.Shuffle)
    {script : List Vault.Exchange} (hscript : ∀ e ∈ script, e.isOrdinary = true) (disk : Disk) :
    let g : Setting := ⟨.ok s, shuffle⟩
    let p := started.provider
    (∀ before d r path, d.provider = none → Place.pathOf r.target = .ok path →
      let st := (serve g before (.init script disk)).2
      ((∃ e, (handle g d r st).1 = .error e) ↔ Unanswered s p r st) ∧
        (r.isCommand = true → s.rateLimit < 0 ∨ st.commands < s.rateLimit →
          (Form.ofOctets r.body).value "ssl_check" ≠ "1" → ¬ p.Stumbles r.arrival st.keeper →
          ∀ f, (p.lookup r.arrival st.keeper).1 = .error f →
            (handle g d r st).1 = .ok tokenUnavailable)) ∧
      (IsSafe script p → ∀ requests : List (Disturbance × Request),
        (∀ x ∈ requests, x.1.provider = none ∧ ∃ path, Place.pathOf x.2.target = .ok path) →
        ∀ a ∈ (serve g requests (.init script disk)).1, ∃ response, a = .ok response) := by
  intro g p
  obtain ⟨-, -, -, hp, hb⟩ := startWith_eq_ok_iff.mp h
  have hordinary {Q : Text → Prop} {st : State} (hst : st.keeper.Keeps Q script) :
      st.keeper.server.next.isOrdinary = true :=
    Vault.Server.isOrdinary_next (by rw [hst.script]; exact hscript)
  refine ⟨fun before d r path hd hpath => ?_, fun hsafe requests => ?_⟩
  · intro st
    have hany : p.Yields (fun _ => True) script := by
      cases p with
      | fixed token => trivial
      | remote client name ttl => exact fun _ _ _ _ => trivial
    have hinit : (State.init script disk).keeper.Keeps (fun _ => True) script :=
      Provider.keeps_init _ _
    have ho : st.keeper.server.next.isOrdinary = true :=
      hordinary (serve_keeps rfl hp hany before hinit)
    refine ⟨escapes_iff rfl hd hpath hp hb ho, fun hcommand hl hcheck hn f hf => ?_⟩
    rw [handle_admitted hcommand rfl hl]
    exact fate_admitted.tokenUnavailable hd hp ho hcheck hn hf
  · have hstart : (State.init script disk).keeper.Keeps
        (fun t => ∃ secret, t = Text.ofString secret) script := Provider.keeps_init _ _
    generalize State.init script disk = st at hstart
    -- The script stays and the kept token is a string, so nothing on the way goes unjudged.
    induction requests generalizing st with
    | nil => exact fun _ a ha => absurd ha List.not_mem_nil
    | cons x requests ih =>
      obtain ⟨d, r⟩ := x
      intro hall a ha
      obtain ⟨hd, path, hpath⟩ := hall _ (List.mem_cons_self ..)
      rcases List.mem_cons.mp ha with rfl | hrest
      · have hiff : (∃ e, (handle g d r st).1 = .error e) ↔ _ :=
          escapes_iff rfl hd hpath hp hb (hordinary hstart)
        cases hanswer : (handle g d r st).1 with
        | ok response => exact ⟨response, hanswer⟩
        | error e =>
          rcases (hiff.mp ⟨e, hanswer⟩).unjudged with hs | ⟨-, t, ht, hstring⟩
          · exact absurd hs (hsafe.1 _ _ hstart.script)
          · exact absurd (Provider.found_of_yields hsafe.2 hstart ht) hstring
      · exact ih _ (handle_keeps (g := g) rfl (fun m hm => expected_keeps hp hsafe.2 hm) hstart)
          (fun y hy => hall y (List.mem_cons_of_mem _ hy)) a hrest

/-- A server that fails, and then has the secret. -/
def failingScript : List Vault.Exchange :=
  [.reply 500 [], .reply 200 (Utf8.encode
    "\x7b\"data\": \x7b\"data\": \x7b\"value\": \"x\"\x7d\x7d\x7d")]

/-- The first command is answered that the token is unavailable, and so is every other. -/
theorem answered_of_failing :
    let g : Setting := ⟨.ok gateSettings, id⟩
    let st : State := .init failingScript ⟨[], []⟩
    (handle g .none gateRequest st).1 = .ok tokenUnavailable ∧
      ∀ a ∈ (serve g [(.none, gateRequest), (.none, gateRequest)] st).1,
        ∃ response, a = .ok response := by
  intro g st
  let client : Vault.Client := ⟨"https://vault", "secret", "value", "v"⟩
  have hstart : startWith gateSettings [] =
      .ok ⟨gateSettings, ⟨20, false⟩, .remote client "slack" 120.0, .memory⟩ := rfl
  have hscript : ∀ e ∈ failingScript, e.isOrdinary = true := by decide +kernel
  obtain ⟨hone, hall⟩ := answered_unless_unjudged hstart id hscript ⟨[], []⟩
  obtain ⟨r, hr, hserver⟩ : ∃ r, client.request "slack" = .ok r ∧ r.serverless = none := by
    have hsome : (client.request "slack").toOption.map (·.serverless) = some none := by
      decide +kernel
    cases hr : client.request "slack" with
    | error f => simp [hr, Except.toOption] at hsome
    | ok r => exact ⟨r, rfl, by simpa [hr, Except.toOption] using hsome⟩
  have hstring : ∀ e ∈ failingScript, ∀ t, client.judge "slack" none e = .ok t →
      ∃ secret, t = Text.ofString secret := by
    have hsecrets : ∀ e ∈ failingScript, (client.judge "slack" none e).toOption = none ∨
        (client.judge "slack" none e).toOption = some (Text.ofString "x") := by decide +kernel
    intro e he t ht
    rcases hsecrets e he with h | h
    · simp [ht, Except.toOption] at h
    · exact ⟨"x", by simpa [ht, Except.toOption] using h⟩
  have hsafe : IsSafe failingScript (.remote client "slack" 120.0) :=
    isSafe_remote hr hserver hstring
  have hcommand : gateRequest.isCommand = true := by decide +kernel
  obtain ⟨path, hpath, -⟩ := isCommand_iff.mp hcommand
  constructor
  · obtain ⟨-, hunavailable⟩ := hone [] .none gateRequest path rfl hpath
    have hnone : ((Provider.remote client "slack" 120.0).lookup 0 st.keeper).1.toOption = none := by
      decide +kernel
    cases hl : ((Provider.remote client "slack" 120.0).lookup 0 st.keeper).1 with
    | ok t => simp [hl, Except.toOption] at hnone
    | error f =>
      exact hunavailable hcommand (.inr (by decide)) (by decide +kernel) (hsafe.1 _ _ rfl) f hl
  · refine hall hsafe _ fun x hx => ?_
    obtain rfl : x = (.none, gateRequest) := by simpa using hx
    exact ⟨rfl, path, hpath⟩

/-- Settings whose address ends in a line feed. -/
def brokenSettings : Settings := { gateSettings with vaultAddress := "https://vault\n" }

/-- Settings whose token for the secret server is not ASCII. -/
def accentedSettings : Settings := { gateSettings with vaultToken := "é" }

/-- **A service that started may leave a command without an answer:** with a line feed behind the
address, or with a token that is not ASCII, though the server would give the secret. -/
theorem escapes_of_address_or_token :
    (∀ e ∈ failingScript, e.isOrdinary = true) ∧
      ∀ s, s = brokenSettings ∨ s = accentedSettings →
        (∃ r, startWith s [] = .ok r) ∧
          ∃ e, (handle ⟨.ok s, id⟩ .none gateRequest (.init failingScript ⟨[], []⟩)).1
            = .error e := by
  have hscript : ∀ e ∈ failingScript, e.isOrdinary = true := by decide +kernel
  have hcommand : gateRequest.isCommand = true := by decide +kernel
  have hcheck : (Form.ofOctets gateRequest.body).value "ssl_check" ≠ "1" := by decide +kernel
  obtain ⟨path, hpath, -⟩ := isCommand_iff.mp hcommand
  have hescapes {s : Settings} {started : Started} (h : startWith s [] = .ok started)
      (hlimit : s.rateLimit = 120)
      (hstumbles : started.provider.Stumbles 0 (.mk none (.init failingScript))) :
      (∃ r, startWith s [] = .ok r) ∧
        ∃ e, (handle ⟨.ok s, id⟩ .none gateRequest (.init failingScript ⟨[], []⟩)).1
          = .error e := by
    obtain ⟨-, -, -, hp, hb⟩ := startWith_eq_ok_iff.mp h
    refine ⟨⟨_, h⟩, (escapes_iff rfl rfl hpath hp hb (by decide +kernel)).mpr ?_⟩
    exact ⟨hcommand, .inr (by rw [hlimit]; decide), hcheck, .inl hstumbles⟩
  refine ⟨hscript, ?_⟩
  rintro s (rfl | rfl)
  · have hstart : startWith brokenSettings [] = .ok ⟨brokenSettings, ⟨20, false⟩,
        .remote ⟨"https://vault\n", "secret", "value", "v"⟩ "slack" 120.0, .memory⟩ := rfl
    have haddress : (Vault.Client.secretUrl ⟨"https://vault\n", "secret", "value", "v"⟩
        "slack").toList = "https://vault".toList ++ '\n' :: "/v1/secret/data/slack".toList := by
      decide +kernel
    have hbefore : "https://vault".toList.all (! Url.isControl ·) = true := by decide +kernel
    refine hescapes hstart rfl ⟨rfl, ?_⟩
    exact Vault.Client.stumbles_of_control haddress (by simpa using hbefore) (by decide)
      (by decide +kernel)
  · have hstart : startWith accentedSettings [] = .ok ⟨accentedSettings, ⟨20, false⟩,
        .remote ⟨"https://vault", "secret", "value", "é"⟩ "slack" 120.0, .memory⟩ := rfl
    exact hescapes hstart rfl ⟨rfl, Vault.Client.stumbles_of_notAscii rfl⟩

end Tombola.Service
