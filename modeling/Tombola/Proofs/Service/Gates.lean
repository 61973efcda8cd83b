import Tombola.Service.Routes
import Tombola.Proofs.Command.Calls
import Tombola.Proofs.Text.OctetOrder
/-!
# No command without the token

A command reaches the stores only through all gates.  `Fate` lists what may come of an
admitted command, one case a gate; everything else is read off it:

* `Authorized` is what a request must be for a group to change: a command within the limit,
  no certificate check, with the token that is expected, from the partition of the group, in
  words that alter it (`authorized_of_changed`); such a command is carried out
  (`Authorized.answered`);
* a refused token is answered by status 403, but for an expected token without octets, which
  no form can match: there an error escapes instead (`forbidden_iff`, `halfPair_escapes`);
* commands beyond the limit are answered by status 429, whatever else they are
  (`limited_iff`).

A run only adds up commands and changes (`serve_commands`, `serve_changed`).
-/

namespace Tombola.Service

open Groups Command

/-! ## 1. The token of a form -/

theorem judge_ofString {given : String} (hg : given ≠ "") (secret : String) :
    judge given (Text.ofString secret) = .ok (decide (given = secret)) := by
  have hoctets := Utf8.encodeText_eq_ok_iff.mpr ⟨secret, rfl, rfl⟩
  have hsame : Utf8.encode given = Utf8.encode secret ↔ given = secret :=
    ⟨Utf8.encode_injective, congrArg _⟩
  simp only [judge, if_neg hg, hoctets, hsame]

theorem judge_of_not_string {given : String} (hg : given ≠ "") {t : Text}
    (ht : ¬ ∃ secret, t = Text.ofString secret) : ∃ f, judge given t = .error f := by
  unfold judge
  rw [if_neg hg]
  cases he : Utf8.encodeText t with
  | error u => exact ⟨_, rfl⟩
  | ok octets =>
    obtain ⟨secret, hs, -⟩ := Utf8.encodeText_eq_ok_iff.mp he
    exact absurd ⟨secret, hs⟩ ht

/-- **A token is right** if it is not empty and the expected one. -/
theorem judge_eq_true_iff {given : String} {t : Text} :
    judge given t = .ok true ↔ given ≠ "" ∧ t = Text.ofString given := by
  by_cases hg : given = ""
  · simp [hg, judge_empty]
  · by_cases ht : ∃ secret, t = Text.ofString secret
    · obtain ⟨secret, rfl⟩ := ht
      rw [judge_ofString hg, Except.ok.injEq, decide_eq_true_eq]
      exact ⟨fun h => ⟨hg, by rw [h]⟩, fun h => (Text.ofString_injective h.2).symm⟩
    · obtain ⟨f, hf⟩ := judge_of_not_string hg ht
      rw [hf]
      exact iff_of_false nofun fun h => ht ⟨given, h.2⟩

/-- **A token is wrong** if it is empty, or another one than the expected one, which has to be
a string. -/
theorem judge_eq_false_iff {given : String} {t : Text} :
    judge given t = .ok false ↔
      given = "" ∨ ∃ secret : String, t = Text.ofString secret ∧ secret ≠ given := by
  by_cases hg : given = ""
  · simp [hg, judge_empty]
  · by_cases ht : ∃ secret, t = Text.ofString secret
    · obtain ⟨secret, rfl⟩ := ht
      rw [judge_ofString hg, Except.ok.injEq, decide_eq_false_iff_not, or_iff_right hg]
      constructor
      · intro h
        exact ⟨secret, rfl, fun e => h e.symm⟩
      · rintro ⟨secret', hs, hne⟩ h
        exact hne ((Text.ofString_injective hs).symm.trans h.symm)
    · obtain ⟨f, hf⟩ := judge_of_not_string hg ht
      rw [hf]
      refine iff_of_false nofun ?_
      rintro (h | ⟨secret, hs, -⟩)
      · exact hg h
      · exact ht ⟨secret, hs⟩

/-! ## 2. The gates of an admitted command -/

/-- The status of an answer; none if an error escapes. -/
def status? : Except Escape Response → Option Nat
  | .ok response => some response.status
  | .error _ => none

/-- **What may come of an admitted command**, gate by gate: an answer and a state. -/
inductive Fate (g : Setting) (s : Settings) (d : Disturbance) (now : Float) (form : Form)
    (st : State) : Except Escape Response → State → Prop
  /-- It checks the certificate. -/
  | check (hs : form.value "ssl_check" = "1") : Fate g s d now form st (.ok (.text 200 "")) st
  /-- The expected token cannot be looked up. -/
  | unknown {f : Failure} {keeper : Token.Provider.Memory} (hs : form.value "ssl_check" ≠ "1")
      (he : expected s d now st.keeper = (.error f, keeper)) :
      Fate g s d now form st (unavailable f) { st with keeper := keeper }
  /-- The expected token has no octets. -/
  | unjudged {token : Text} {f : Failure} {keeper : Token.Provider.Memory}
      (hs : form.value "ssl_check" ≠ "1") (he : expected s d now st.keeper = (.ok token, keeper))
      (hj : judge (form.value "token") token = .error f) :
      Fate g s d now form st (.error (.failure f)) { st with keeper := keeper }
  /-- The token is wrong. -/
  | forbidden {token : Text} {keeper : Token.Provider.Memory} (hs : form.value "ssl_check" ≠ "1")
      (he : expected s d now st.keeper = (.ok token, keeper))
      (hj : judge (form.value "token") token = .ok false) :
      Fate g s d now form st (.ok (.json 403 (texts [("error", "invalid_token")])))
        { st with keeper := keeper }
  /-- There is no such backend. -/
  | storeless {token : Text} {keeper : Token.Provider.Memory} {e : ConfigFault}
      (hs : form.value "ssl_check" ≠ "1") (he : expected s d now st.keeper = (.ok token, keeper))
      (hj : judge (form.value "token") token = .ok true)
      (hb : Backend.ofName s.storeBackend s.appDb = .error e) :
      Fate g s d now form st (.error (.failure (.ours (.config e)))) { st with keeper := keeper }
  /-- It is carried out. -/
  | done {token : Text} {keeper : Token.Provider.Memory} {b : Backend} {name : String}
      {result : Result} {contents : Backend.Contents}
      (hs : form.value "ssl_check" ≠ "1") (he : expected s d now st.keeper = (.ok token, keeper))
      (hj : judge (form.value "token") token = .ok true)
      (hb : Backend.ofName s.storeBackend s.appDb = .ok b)
      (hn : name = if form.value "command" = "" then s.commandName else form.value "command")
      (hr : carryOut name g.shuffle d (b.store (isOver s.commandTimeout) (form.value "team_id"))
        (Text.words (form.value "text")) st.contents = (result, contents)) :
      Fate g s d now form st (.ok result.response)
        { st with keeper := keeper, contents := contents }

section Fate

variable {g : Setting} {s : Settings} {d : Disturbance} {now : Float} {form : Form} {st : State}

theorem fate_admitted :
    Fate g s d now form st (admitted g s d now form st).1 (admitted g s d now form st).2 := by
  unfold admitted
  by_cases hs : form.value "ssl_check" = "1"
  · rw [if_pos hs]
    exact .check hs
  · rw [if_neg hs]
    rcases he : expected s d now st.keeper with ⟨f | token, keeper⟩
    · exact .unknown hs he
    · simp only
      cases hj : judge (form.value "token") token with
      | error f => exact .unjudged hs he hj
      | ok right =>
        cases right with
        | false => exact .forbidden hs he hj
        | true =>
          cases hb : Backend.ofName s.storeBackend s.appDb with
          | error e => exact .storeless hs he hj hb
          | ok b => exact .done hs he hj hb rfl rfl

/-! ## 3. What a fate tells -/

variable {a : Except Escape Response} {st' : State}

/-- The user is always told something with status 200. -/
theorem status_response (result : Result) : result.response.status = 200 := by
  rcases result with r | f | _
  · rfl
  · cases f <;> rfl
  · rfl

/-- The status for a token that is not available tells of a fault of the server. -/
theorem status?_unavailable {f : Failure} {n : Nat} (h : status? (unavailable f) = some n) :
    500 ≤ n := by
  unfold unavailable at h
  split at h
  · cases h
    decide
  · split at h
    · cases h
      decide
    · cases h

/-- Only the rate limit answers with status 429. -/
theorem Fate.not_limited (h : Fate g s d now form st a st') : status? a ≠ some 429 := by
  cases h with
  | check | forbidden => simp [status?, Response.status]
  | unknown => exact fun h => absurd (status?_unavailable h) (by decide)
  | unjudged | storeless => exact nofun
  | done =>
    rw [status?, status_response]
    decide

/-- **What the status tells**, if the expected token is known: whether the token is right, and
whether there is a store. -/
theorem Fate.status_of_known (h : Fate g s d now form st a st')
    (hs : form.value "ssl_check" ≠ "1") {token : Text}
    (ht : (expected s d now st.keeper).1 = .ok token) :
    status? a =
      match judge (form.value "token") token with
      | .error _ => none
      | .ok false => some 403
      | .ok true => (Backend.ofName s.storeBackend s.appDb).toOption.map fun _ => 200 := by
  cases h with
  | check hc => exact absurd hc hs
  | unknown _ he =>
    rw [he] at ht
    cases ht
  | unjudged _ he hj | forbidden _ he hj =>
    rw [he] at ht
    cases ht
    rw [hj]
    rfl
  | storeless _ he hj hb =>
    rw [he] at ht
    cases ht
    rw [hj, hb]
    rfl
  | done _ he hj hb =>
    rw [he] at ht
    cases ht
    rw [hj, hb, status?, status_response]
    rfl

/-- **When a command is refused for its token.** -/
theorem Fate.forbidden_iff (h : Fate g s d now form st a st')
    (hs : form.value "ssl_check" ≠ "1") {token : Text}
    (ht : (expected s d now st.keeper).1 = .ok token) :
    status? a = some 403 ↔ judge (form.value "token") token = .ok false := by
  rw [h.status_of_known hs ht]
  rcases judge (form.value "token") token with f | _ | _
  · exact iff_of_false nofun nofun
  · exact iff_of_true rfl rfl
  · cases Backend.ofName s.storeBackend s.appDb with
    | error e => exact iff_of_false nofun nofun
    | ok b => exact iff_of_false (by simp [Except.toOption]) nofun

/-- **A command with the right token is carried out**, if there is a store for it. -/
theorem Fate.answered (h : Fate g s d now form st a st') (hs : form.value "ssl_check" ≠ "1")
    (hg : form.value "token" ≠ "")
    (ht : (expected s d now st.keeper).1 = .ok (Text.ofString (form.value "token"))) {b : Backend}
    (hb : Backend.ofName s.storeBackend s.appDb = .ok b) : status? a = some 200 := by
  rw [h.status_of_known hs ht, judge_eq_true_iff.mpr ⟨hg, rfl⟩, hb]
  rfl

/-- A command that is carried out leaves alone what its words do not alter. -/
theorem entry_carryOut {p q group : String} {words : List String}
    (h : ¬ (q = p ∧ Alters group words)) (name : String) (shuffle : Shuffle) (d : Disturbance)
    (b : Backend) (late : Bool) (contents : Backend.Contents) :
    (carryOut name shuffle d (b.store late p) words contents).2.entry q group
      = contents.entry q group := by
  unfold carryOut
  cases hw : Command.Request.ofWords words with
  | error e => rfl
  | ok r =>
    have hrun := entry_perform h name shuffle d.faults b late contents
    rw [perform_of_ok hw] at hrun
    simp only
    cases d.handler r.operation with
    | some mishap => cases mishap <;> rfl
    | none =>
      rw [← hrun]
      rcases (r.perform name shuffle).runWith d.faults (b.store late p) contents
        with ⟨_ | (e | reply), contents'⟩ <;> rfl

/-- **Only a command with the right token changes a group**, and only the one that it names. -/
theorem Fate.of_changed (h : Fate g s d now form st a st') {p k : String}
    (hc : st'.contents.entry p k ≠ st.contents.entry p k) :
    form.value "ssl_check" ≠ "1" ∧ form.value "token" ≠ ""
      ∧ (expected s d now st.keeper).1 = .ok (Text.ofString (form.value "token"))
      ∧ p = form.value "team_id" ∧ Alters k (Text.words (form.value "text")) := by
  cases h with
  | check | unknown | unjudged | forbidden | storeless => exact absurd rfl hc
  | @done _ _ b name _ _ hs he hj _ _ hr =>
    obtain ⟨hgiven, rfl⟩ := judge_eq_true_iff.mp hj
    refine ⟨hs, hgiven, by rw [he], ?_⟩
    -- Words that do not alter the group leave it alone, whatever comes of the calls.
    by_contra halters
    have hsame := entry_carryOut halters name g.shuffle d b (isOver s.commandTimeout) st.contents
    rw [hr] at hsame
    exact hc hsame

theorem Fate.commands (h : Fate g s d now form st a st') : st'.commands = st.commands := by
  cases h <;> rfl

end Fate

/-! ## 4. Requests -/

def Request.isCommand (r : Request) : Bool :=
  match Place.pathOf r.target with
  | .error _ => false
  | .ok path => Place.of? path = some .command && r.method = "POST"

section Request

variable {g : Setting} {d : Disturbance} {r : Request} {st : State} {s : Settings}

theorem isCommand_iff :
    r.isCommand = true ↔ ∃ path, Place.pathOf r.target = .ok path
      ∧ Place.of? path = some .command ∧ r.method = "POST" := by
  unfold Request.isCommand
  cases Place.pathOf r.target <;> simp

theorem handle_command (h : r.isCommand = true) : handle g d r st = command g d r st := by
  obtain ⟨path, hpath, hplace, hmethod⟩ := isCommand_iff.mp h
  simp [handle, hpath, hplace, Place.takes, hmethod, answer]

/-- The readiness check only asks. -/
theorem ready_state : ∃ contents, (ready g d st).2 = { st with contents := contents } ∧
    ∀ p k, contents.entry p k = st.contents.entry p k := by
  unfold ready
  split
  · exact ⟨_, rfl, fun _ _ => rfl⟩
  · split
    · exact ⟨_, rfl, fun _ _ => rfl⟩
    · rename_i b _
      have hsame := fun p k => Backend.entry_around (c := .list) (p := readinessPartition) (q := p)
        (g := k) And.right b false d.faults 0 st.contents
      rcases hx : d.faults.around (b.store false readinessPartition) .list (0, st.contents)
        with ⟨(_ | _) | _, n, contents⟩
      all_goals
        rw [hx] at hsame
        exact ⟨contents, rfl, hsame⟩

/-- **A request that is no command** leaves all as it is, or as the readiness check leaves it.  It
is answered, if its target can be read. -/
theorem handle_other (h : r.isCommand = false) :
    ((handle g d r st).2 = st ∨ (handle g d r st).2 = (ready g d st).2) ∧
      ∀ path, Place.pathOf r.target = .ok path →
        ∃ response, (handle g d r st).1 = .ok response := by
  unfold handle
  cases hpath : Place.pathOf r.target with
  | error fault => exact ⟨.inl rfl, nofun⟩
  | ok path =>
    simp only
    cases hplace : Place.of? path with
    | none => exact ⟨.inl rfl, fun _ _ => ⟨_, rfl⟩⟩
    | some place =>
      simp only
      split
      · rename_i htakes
        cases place with
        | command =>
          have hmethod : r.method = "POST" := by simpa [Place.takes] using htakes
          rw [isCommand_iff.mpr ⟨path, hpath, hplace, hmethod⟩] at h
          cases h
        | readiness => exact ⟨.inr rfl, fun _ _ => ⟨_, rfl⟩⟩
        | health | description | page | otherPage | returnPage =>
          exact ⟨.inl rfl, fun _ _ => ⟨_, rfl⟩⟩
      · exact ⟨.inl rfl, fun _ _ => ⟨_, rfl⟩⟩

theorem state_of_other (h : r.isCommand = false) :
    ∃ contents, (handle g d r st).2 = { st with contents := contents } ∧
      ∀ p k, contents.entry p k = st.contents.entry p k := by
  rcases (handle_other h).1 with hst | hst
  · exact ⟨_, hst, fun _ _ => rfl⟩
  · rw [hst]
    exact ready_state

theorem handle_admitted (h : r.isCommand = true) (hs : g.settings = .ok s)
    (hl : s.rateLimit < 0 ∨ st.commands < s.rateLimit) :
    handle g d r st = admitted g s d r.arrival (Form.ofOctets r.body)
      { st with commands := st.commands + 1 } := by
  have hlimit : overLimit? s.rateLimit (st.commands + 1) = none := by
    rw [overLimit?, if_neg (by omega)]
  simp only [handle_command h, command, hs, hlimit]

theorem handle_limited (h : r.isCommand = true) (hs : g.settings = .ok s)
    (hl : ¬ (s.rateLimit < 0 ∨ st.commands < s.rateLimit)) :
    handle g d r st =
      (.ok (.json 429 (texts [("error", "rate limit exceeded"),
        ("detail", toString s.rateLimit ++ " per 1 minute")])),
        { st with commands := st.commands + 1 }) := by
  have hlimit : overLimit? s.rateLimit (st.commands + 1) =
      some (.json 429 (texts [("error", "rate limit exceeded"),
        ("detail", toString s.rateLimit ++ " per 1 minute")])) := by
    rw [overLimit?, if_pos (by omega)]
  simp only [handle_command h, command, hs, hlimit]

/-- Every command counts. -/
theorem handle_commands (h : r.isCommand = true) :
    (handle g d r st).2.commands = st.commands + 1 := by
  cases hs : g.settings with
  | error faults => simp only [handle_command h, command, hs]
  | ok s =>
    by_cases hl : s.rateLimit < 0 ∨ st.commands < s.rateLimit
    · rw [handle_admitted h hs hl]
      exact fate_admitted.commands
    · rw [handle_limited h hs hl]

/-- **A command is beyond the limit** exactly if as many came before it as are admitted.  All of
them count, whatever became of them, and a negative limit is none. -/
theorem limited_iff (h : r.isCommand = true) (hs : g.settings = .ok s) :
    status? (handle g d r st).1 = some 429 ↔ 0 ≤ s.rateLimit ∧ s.rateLimit ≤ st.commands := by
  by_cases hl : s.rateLimit < 0 ∨ st.commands < s.rateLimit
  · rw [handle_admitted h hs hl]
    exact iff_of_false fate_admitted.not_limited (by omega)
  · rw [handle_limited h hs hl]
    exact iff_of_true rfl (by omega)

/-- **A command with the wrong token is refused**, if it is admitted and the expected token is
known. -/
theorem forbidden_iff (h : r.isCommand = true) (hs : g.settings = .ok s)
    (hl : s.rateLimit < 0 ∨ st.commands < s.rateLimit)
    (hc : (Form.ofOctets r.body).value "ssl_check" ≠ "1") {token : Text}
    (ht : (expected s d r.arrival st.keeper).1 = .ok token) :
    status? (handle g d r st).1 = some 403 ↔
      (Form.ofOctets r.body).value "token" = "" ∨ ∃ secret : String,
        token = Text.ofString secret ∧ secret ≠ (Form.ofOctets r.body).value "token" := by
  rw [handle_admitted h hs hl, ← judge_eq_false_iff]
  exact fate_admitted.forbidden_iff hc ht

/-- **What a request must be to change a group:** a command within the limit, that checks no
certificate, with the token that is expected, from the partition of the group, in words that
alter it. -/
structure Authorized (s : Settings) (d : Disturbance) (r : Request) (st : State)
    (p k : String) : Prop where
  command : r.isCommand = true
  admitted : s.rateLimit < 0 ∨ st.commands < s.rateLimit
  noCheck : (Form.ofOctets r.body).value "ssl_check" ≠ "1"
  given : (Form.ofOctets r.body).value "token" ≠ ""
  expected : (expected s d r.arrival st.keeper).1
    = .ok (Text.ofString ((Form.ofOctets r.body).value "token"))
  partition : p = (Form.ofOctets r.body).value "team_id"
  alters : Alters k (Text.words ((Form.ofOctets r.body).value "text"))

theorem authorized_of_changed {p k : String}
    (hc : (handle g d r st).2.contents.entry p k ≠ st.contents.entry p k) :
    ∃ s, g.settings = .ok s ∧ Authorized s d r st p k := by
  -- Other requests, settings that do not parse and the limit leave the stores alone.
  cases h : r.isCommand with
  | false =>
    obtain ⟨contents, hst, hsame⟩ : ∃ contents, (handle g d r st).2 = _ ∧ _ := state_of_other h
    rw [hst] at hc
    exact absurd (hsame p k) hc
  | true =>
    cases hs : g.settings with
    | error faults =>
      rw [handle_command h, command, hs] at hc
      exact absurd rfl hc
    | ok s =>
      by_cases hl : s.rateLimit < 0 ∨ st.commands < s.rateLimit
      · rw [handle_admitted h hs hl] at hc
        obtain ⟨hcheck, hgiven, htoken, hp, halters⟩ := fate_admitted.of_changed hc
        exact ⟨s, rfl, h, hl, hcheck, hgiven, htoken, hp, halters⟩
      · rw [handle_limited h hs hl] at hc
        exact absurd rfl hc

/-- **An authorized command is carried out**, if there is a store for it. -/
theorem Authorized.answered {p k : String} (h : Authorized s d r st p k) (hs : g.settings = .ok s)
    {b : Backend} (hb : Backend.ofName s.storeBackend s.appDb = .ok b) :
    status? (handle g d r st).1 = some 200 := by
  rw [handle_admitted h.command hs h.admitted]
  exact fate_admitted.answered h.noCheck h.given h.expected hb

end Request

/-! ## 5. Runs -/

section Run

variable {g : Setting}

theorem serve_commands (requests : List (Disturbance × Request)) (st : State) :
    (serve g requests st).2.commands = st.commands + requests.countP (·.2.isCommand) := by
  induction requests generalizing st with
  | nil => rfl
  | cons x requests ih =>
    obtain ⟨d, r⟩ := x
    have hrest : (serve g ((d, r) :: requests) st).2 = (serve g requests (handle g d r st).2).2 :=
      rfl
    rw [hrest, ih, List.countP_cons]
    cases h : r.isCommand with
    | false =>
      obtain ⟨contents, hst, -⟩ : ∃ contents, (handle g d r st).2 = _ ∧ _ := state_of_other h
      rw [hst]
      simp
    | true =>
      rw [handle_commands h]
      simp only [if_true]
      omega

/-- **A group that a run changes was changed by an authorized command of it.**  The induction finds
the request of the run that changed the group; the requests before it say with which state it was
authorized. -/
theorem serve_changed {requests : List (Disturbance × Request)} {st : State} {p k : String}
    (hc : (serve g requests st).2.contents.entry p k ≠ st.contents.entry p k) :
    ∃ before d r after s, requests = before ++ (d, r) :: after ∧ g.settings = .ok s
      ∧ Authorized s d r (serve g before st).2 p k := by
  induction requests generalizing st with
  | nil => exact absurd rfl hc
  | cons x requests ih =>
    obtain ⟨d, r⟩ := x
    -- Either the first request changed the group, or the others did.
    by_cases h : (handle g d r st).2.contents.entry p k = st.contents.entry p k
    · have hrest : (serve g requests (handle g d r st).2).2.contents.entry p k
          ≠ (handle g d r st).2.contents.entry p k := by
        rw [h]
        exact hc
      obtain ⟨before, d', r', after, s, rfl, hs, ha⟩ := ih hrest
      exact ⟨(d, r) :: before, d', r', after, s, rfl, hs, ha⟩
    · obtain ⟨s, hs, ha⟩ := authorized_of_changed h
      exact ⟨[], d, r, requests, s, rfl, hs, ha⟩

end Run

/-! ## 6. The service -/

/-- **No command runs without the token.**  After any requests, the next one changes a group
only if it is authorized to.  A command is beyond the limit exactly if the limit came in
before it, whatever it was; and within the limit, if it checks no certificate and the expected
token is known, it is refused exactly if its token is empty or another string. -/
theorem no_command_without_token (g : Setting) (script : List Vault.Exchange) (disk : Disk)
    (before : List (Disturbance × Request)) (d : Disturbance) (r : Request) :
    let st := (serve g before (.init script disk)).2
    let form := Form.ofOctets r.body
    st.commands = before.countP (·.2.isCommand) ∧
      (∀ p k, (handle g d r st).2.contents.entry p k ≠ st.contents.entry p k →
        ∃ s, g.settings = .ok s ∧ Authorized s d r st p k) ∧
      ∀ s, g.settings = .ok s → r.isCommand = true →
        (status? (handle g d r st).1 = some 429 ↔
          0 ≤ s.rateLimit ∧ s.rateLimit ≤ st.commands) ∧
        (s.rateLimit < 0 ∨ st.commands < s.rateLimit → form.value "ssl_check" ≠ "1" →
          ∀ token, (expected s d r.arrival st.keeper).1 = .ok token →
            (status? (handle g d r st).1 = some 403 ↔
              form.value "token" = "" ∨ ∃ secret : String,
                token = Text.ofString secret ∧ secret ≠ form.value "token")) := by
  intro st form
  refine ⟨?_, fun p k => authorized_of_changed, fun s hs h => ⟨limited_iff h hs, ?_⟩⟩
  · exact (serve_commands before _).trans (Nat.zero_add _)
  · intro hl hc token ht
    exact forbidden_iff h hs hl hc ht

-- With the right token a group is saved.
example :
    (handle ⟨.ok { Settings.default with slackToken := "x", storeBackend := "memory" }, id⟩ .none
      (.make "POST" "/slack" (Utf8.encode "token=x&team_id=T1&text=/save+lunch+a+b") 0)
      (.init [] ⟨[], []⟩)).2.contents.entry "T1" "lunch" = (some ["a", "b"], none) := by
  decide +kernel

def gateSettings : Settings :=
  { Settings.default with
    secretName := "slack", vaultAddress := "https://vault", vaultToken := "v",
    storeBackend := "memory" }

/-- A server whose secret is the first half of a surrogate pair. -/
def halfPairState : State :=
  .init [.reply 200 (Utf8.encode
    "\x7b\"data\": \x7b\"data\": \x7b\"value\": \"\\ud800\"\x7d\x7d\x7d")] ⟨[], []⟩

def gateRequest : Request := .make "POST" "/slack" (Utf8.encode "token=x&team_id=T1&text=/list") 0

/-- A wrong token is not refused if the expected one has no octets: an error escapes. -/
theorem halfPair_escapes :
    gateRequest.isCommand = true ∧ (Form.ofOctets gateRequest.body).value "ssl_check" ≠ "1" ∧
      (Form.ofOctets gateRequest.body).value "token" = "x" ∧
      (expected gateSettings .none gateRequest.arrival halfPairState.keeper).1 = .ok [.lone 0] ∧
      status? (handle ⟨.ok gateSettings, id⟩ .none gateRequest halfPairState).1 ≠ some 403 := by
  have hcommand : gateRequest.isCommand = true := by decide +kernel
  have hcheck : (Form.ofOctets gateRequest.body).value "ssl_check" ≠ "1" := by decide +kernel
  have htoken : (Form.ofOctets gateRequest.body).value "token" = "x" := by decide +kernel
  have hexpected :
      (expected gateSettings .none gateRequest.arrival halfPairState.keeper).1 = .ok [.lone 0] := by
    have hsome : (expected gateSettings .none gateRequest.arrival
        halfPairState.keeper).1.toOption = some [.lone 0] := by decide +kernel
    cases he : (expected gateSettings .none gateRequest.arrival halfPairState.keeper).1 with
    | error f =>
      rw [he] at hsome
      cases hsome
    | ok token =>
      rw [he] at hsome
      cases hsome
      rfl
  refine ⟨hcommand, hcheck, htoken, hexpected, ?_⟩
  rw [Ne, forbidden_iff hcommand rfl (.inr (by decide)) hcheck hexpected, htoken]
  rintro (h | ⟨secret, hs, -⟩)
  · exact absurd h (by decide)
  · have hlone : CodePoint.lone 0 ∈ Text.ofString secret := by simp [← hs]
    exact absurd (Utf8.isLone_of_mem_ofString hlone) (by decide)

end Tombola.Service
