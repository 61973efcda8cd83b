import Tombola.Proofs.Service.Asking
import Tombola.Proofs.Service.Workspaces
/-!
# Causes stay inside

When the store or the secret server fails, the user is told that something failed, and not what.
So two runs of the same requests are answered the same if the same of their calls fail: the same
calls on the stores, with whatever errors that are none of ours, and the same requests for the
secret, be it by a status, by a reply without the secret or by the transport.

The two runs are taken side by side.  What they keep is alike: the same groups, the same token,
as many requests made to the secret server, and a script of which the same exchanges fail
(`State.Like`).  A lookup that fails, fails with an error of ours in both runs
(`Provider.lookup_like`), a command on alike contents comes to the same (`carryOut_like`); so a
request is answered the same and leaves what is alike (`handle_like`).

A reply that is nested too deep is left out, though it has no secret: it is taken for an accident
that nobody expects, and an error escapes (`deepBody_tells`).

Main statement: `causes_hidden`.
-/

namespace Tombola

/-! ## 1. Exchanges -/

namespace Vault

/-- Whether a body has the secret: a text in the field, which is not empty. -/
def HasSecret (field : String) (body : List UInt8) : Prop :=
  ∃ t v x xs, Encoding.read? body = some t ∧ Json.readWithin Client.maxDepth t = .ok v ∧
    fieldOf? field v = some (.str (x :: xs))

/-- **The ways in which a request for the secret fails:** there is no reply, the reply has an error
status, or its body has no secret and is not nested too deep. -/
inductive Exchange.Fails (field : String) : Exchange → Prop
  | raised {f : Failure} (h : f.isTransport = true) : Fails field (.raised f)
  | refused {status : Int} {body : List UInt8} (h : 400 ≤ status) :
    Fails field (.reply status body)
  | lacking {status : Int} {body : List UInt8} (ho : isTooDeep body = false)
      (h : ¬ HasSecret field body) : Fails field (.reply status body)

/-- Whether two exchanges come to the same: they are one, or both fail. -/
def Exchange.Like (field : String) (e e' : Exchange) : Prop :=
  e = e' ∨ e.Fails field ∧ e'.Fails field

namespace Client

variable {c : Client} {e : Exchange}

theorem hasSecret_of_secretIn {name : String} {body : List UInt8} {t : Text}
    (h : c.secretIn name body = .ok t) :
    HasSecret c.field body := by
  unfold secretIn at h
  simp only at h
  split at h
  · cases h
  · rename_i whole hread
    split at h
    · cases h
    · cases h
    · rename_i v hv
      split at h
      · cases h
      · rename_i x xs hfield
        exact ⟨whole, v, x, xs, hread, hv, hfield⟩
      · cases h

theorem not_hasSecret_of_isTooDeep {field : String} {body : List UInt8}
    (h : isTooDeep body = true) : ¬ HasSecret field body := by
  rintro ⟨t, v, x, xs, hread, hv, -⟩
  simp only [isTooDeep, hread, hv, Bool.false_eq_true] at h

/-- **A request that fails is judged by an error of ours.** -/
theorem judge_of_fails (name : String) (h : e.Fails c.field) :
    ∃ fault, c.judge name none e = .error (.ours (.secret fault)) := by
  cases h with
  | raised ht =>
    simp only [judge, ht, if_true]
    exact ⟨_, rfl⟩
  | refused hs => exact ⟨_, judge_refused _ hs⟩
  | @lacking status body ho hsecret =>
    by_cases hs : 400 ≤ status
    · exact ⟨_, judge_refused _ hs⟩
    · simp only [judge, if_neg hs]
      cases hr : c.secretIn name body with
      | ok t => exact absurd (hasSecret_of_secretIn hr) hsecret
      | error f =>
        obtain ⟨fault, rfl⟩ := secretIn_error ho hr
        exact ⟨fault, rfl⟩

end Client

end Vault

/-! ## 2. Lookups -/

namespace Token.Provider

open Vault

/-- Whether two lookups come to the same: they are one, or both fail with errors of ours. -/
inductive FoundLike : Except Failure Text → Except Failure Text → Prop
  | same (r : Except Failure Text) : FoundLike r r
  | failed (e e' : DrawError) : FoundLike (.error (.ours e)) (.error (.ours e'))

/-- **Whether two scripts come to the same for a provider:** it does not ask, or its requests go to
a server, and the same of them fail. -/
def ScriptsLike (script script' : List Exchange) : Provider → Prop
  | fixed _ => True
  | remote c name _ => (∀ r, c.request name = .ok r → r.serverless = none) ∧
      ∀ n, (Server.exchange script n).Like c.field (Server.exchange script' n)

/-- Whether what is kept in two runs is alike for a provider. -/
structure Memory.Like (p : Provider) (m m' : Memory) : Prop where
  lease : m.lease = m'.lease
  asked : m.server.asked = m'.server.asked
  scripts : p.ScriptsLike m.server.script m'.server.script

variable {p : Provider} {m m' : Memory} {c : Client} {name : String} {ttl : Float}

/-- Reads on alike scripts come to the same, and make the same requests. -/
theorem read_like (h : m.Like (remote c name ttl) m') :
    FoundLike (c.read name m.server).1 (c.read name m'.server).1 ∧
      (c.read name m.server).2.asked = (c.read name m'.server).2.asked := by
  obtain ⟨hserver, hexchange⟩ := h.scripts
  have hnext : m.server.next.Like c.field m'.server.next := by
    rw [Server.next_eq, Server.next_eq, ← h.asked]
    exact hexchange _
  have hasked := h.asked
  simp only [Client.read_asked, hasked, and_true]
  unfold Client.read
  cases hr : c.request name with
  | error f => exact .same _
  | ok r =>
    simp only [hserver r hr]
    rcases hnext with he | ⟨hfails, hfails'⟩
    · rw [he]
      exact .same _
    · obtain ⟨fault, hj⟩ := Client.judge_of_fails name hfails
      obtain ⟨fault', hj'⟩ := Client.judge_of_fails name hfails'
      rw [hj, hj']
      exact .failed _ _

/-- **Lookups that are alike come to the same,** and keep what is alike. -/
theorem lookup_like (now : Float) (h : m.Like p m') :
    FoundLike (p.lookup now m).1 (p.lookup now m').1 ∧
      (p.lookup now m).2.Like p (p.lookup now m').2 := by
  cases p with
  | fixed token => exact ⟨.same _, h⟩
  | remote c name ttl =>
    have hlease := h.lease
    cases hv : Lease.valid? now m'.lease with
    | some token =>
      rw [lookup_of_valid hv, lookup_of_valid (hlease ▸ hv)]
      exact ⟨.same _, h⟩
    | none =>
      obtain ⟨hfound, hasked⟩ := read_like h
      have hscript := Client.read_script c name m.server
      have hscript' := Client.read_script c name m'.server
      simp only [lookup, hlease, hv]
      rcases hread : c.read name m.server with ⟨r, server⟩
      rcases hread' : c.read name m'.server with ⟨r', server'⟩
      rw [hread, hread'] at hfound hasked
      rw [hread] at hscript
      rw [hread'] at hscript'
      have hscripts : ScriptsLike server.script server'.script (remote c name ttl) := by
        rw [hscript, hscript']
        exact h.scripts
      cases hfound with
      | failed e e' => exact ⟨.failed e e', rfl, hasked, hscripts⟩
      | same =>
        rcases r with f | t
        · exact ⟨.same _, rfl, hasked, hscripts⟩
        · exact ⟨.same _, rfl, hasked, hscripts⟩

end Token.Provider

namespace Service

open Groups Token Provider

/-! ## 3. Commands -/

section Commands

variable {path p name : String} {shuffle : Command.Shuffle} {d d' : Disturbance} {b : Backend}
  {late : Bool} {words : List String} {contents contents' : Backend.Contents} {s : Settings}

/-- **A command on alike contents comes to the same,** and leaves alike contents.  Failures may have
other causes in the two runs; what is said about them to the user has no place for a cause. -/
theorem carryOut_like (hb : b.IsAt path) (hd : d.Like d')
    (h : ∀ q, contents.SameIn path q contents') :
    (carryOut name shuffle d (b.store late p) words contents).1.response
        = (carryOut name shuffle d' (b.store late p) words contents').1.response ∧
      ∀ q, (carryOut name shuffle d (b.store late p) words contents).2.SameIn path q
        (carryOut name shuffle d' (b.store late p) words contents').2 := by
  refine ⟨(carryOut_same hb hd (h p)).1, fun q => ?_⟩
  by_cases hq : q = p
  · rw [hq]
    exact (carryOut_same hb hd (h p)).2
  · exact (carryOut_apart hb hq rfl).symm.trans ((h q).trans (carryOut_apart hb hq rfl))

/-- What is expected in two runs comes to the same, and what is kept is alike. -/
theorem expected_like (now : Float) {m m' : Provider.Memory} (hd : d.Like d')
    (h : ∀ p, Provider.ofSettings s = .ok p → m.Like p m') :
    FoundLike (expected s d now m).1 (expected s d' now m').1 ∧
      ∀ p, Provider.ofSettings s = .ok p →
        (expected s d now m).2.Like p (expected s d' now m').2 := by
  unfold expected
  rw [hd.provider]
  split
  · exact ⟨.same _, h⟩
  · exact ⟨.same _, h⟩
  · cases hp : Provider.ofSettings s with
    | error e => exact ⟨.same _, fun p hp' => nomatch hp'⟩
    | ok p =>
      obtain ⟨hfound, hkept⟩ := lookup_like now (h p hp)
      refine ⟨hfound, fun p' hp' => ?_⟩
      obtain rfl := Except.ok.inj hp'
      exact hkept

theorem unavailable_like {f f' : Failure} (h : FoundLike (.error f) (.error f')) :
    unavailable f = unavailable f' := by
  cases h with
  | same => rfl
  | failed e e' => rfl

end Commands

/-! ## 4. Requests -/

/-- **Whether two runs have come to the same:** as many commands, the same groups for all
partitions, and what is kept of the token alike for the provider that the settings ask for. -/
structure State.Like (s : Settings) (st st' : State) : Prop where
  commands : st.commands = st'.commands
  keeper : ∀ p, Provider.ofSettings s = .ok p → st.keeper.Like p st'.keeper
  contents : ∀ q, st.contents.SameIn s.appDb q st'.contents

section Requests

variable {g : Setting} {s : Settings} {d d' : Disturbance} {now : Float} {form : Form}
  {r : Request} {st st' : State}

/-- **An admitted command comes to the same.** -/
theorem admitted_like (hd : d.Like d') (h : st.Like s st') :
    (admitted g s d now form st).1 = (admitted g s d' now form st').1 ∧
      (admitted g s d now form st).2.Like s (admitted g s d' now form st').2 := by
  unfold admitted
  split
  · exact ⟨rfl, h⟩
  · obtain ⟨hfound, hkept⟩ := expected_like now hd h.keeper
    rcases hx : expected s d now st.keeper with ⟨token, keeper⟩
    rcases hx' : expected s d' now st'.keeper with ⟨token', keeper'⟩
    rw [hx, hx'] at hfound hkept
    have hlike : State.Like s { st with keeper := keeper } { st' with keeper := keeper' } :=
      ⟨h.commands, hkept, h.contents⟩
    rcases token with f | token
    · rcases token' with f' | token'
      · exact ⟨unavailable_like hfound, hlike⟩
      · cases hfound
    · obtain rfl : token' = .ok token := by
        cases hfound
        rfl
      simp only
      cases judge (form.value "token") token with
      | error f => exact ⟨rfl, hlike⟩
      | ok right =>
        cases right with
        | false => exact ⟨rfl, hlike⟩
        | true =>
          simp only
          cases hb : Backend.ofName s.storeBackend s.appDb with
          | error e => exact ⟨rfl, hlike⟩
          | ok b =>
            obtain ⟨hresponse, hsame⟩ := carryOut_like (Backend.isAt_of_ofName hb) hd h.contents
            exact ⟨congrArg Except.ok hresponse, h.commands, hkept, hsame⟩

theorem command_like (hg : g.settings = .ok s) (hd : d.Like d') (h : st.Like s st') :
    (command g d r st).1 = (command g d' r st').1 ∧
      (command g d r st).2.Like s (command g d' r st').2 := by
  have hnext : State.Like s { st with commands := st.commands + 1 }
      { st' with commands := st'.commands + 1 } :=
    ⟨congrArg (· + 1) h.commands, h.keeper, h.contents⟩
  unfold command
  simp only [hg, h.commands]
  cases overLimit? s.rateLimit (st'.commands + 1) with
  | some refusal => exact ⟨rfl, h.commands ▸ hnext⟩
  | none => exact admitted_like hd (h.commands ▸ hnext)

theorem ready_like (hg : g.settings = .ok s) (hd : d.Like d') (h : st.Like s st') :
    (ready g d st).1 = (ready g d' st').1 ∧ (ready g d st).2.Like s (ready g d' st').2 := by
  unfold ready
  simp only [hg]
  cases hb : Backend.ofName s.storeBackend s.appDb with
  | error e => exact ⟨rfl, h⟩
  | ok b =>
    have hat := Backend.isAt_of_ofName hb
    simp only
    rcases hd.faults.cases 0 .list with ⟨hnone, hnone'⟩ | ⟨f, f', hsome, hsome', -⟩
    · rw [Faults.around_of_none hnone, Faults.around_of_none hnone']
      have hanswer : Answer.Like (b.store false readinessPartition .list st.contents).1
          (b.store false readinessPartition .list st'.contents).1 :=
        (Backend.store_sameIn hat (h.contents readinessPartition)).1
      have hsame : ∀ q, (b.store false readinessPartition .list st.contents).2.SameIn s.appDb q
          (b.store false readinessPartition .list st'.contents).2 := fun q =>
        (Backend.store_apart hat (.inr rfl)).symm.trans
          ((h.contents q).trans (Backend.store_apart hat (.inr rfl)))
      generalize b.store false readinessPartition .list st.contents = out,
        b.store false readinessPartition .list st'.contents = out' at hanswer hsame ⊢
      obtain ⟨x, contents⟩ := out
      obtain ⟨x', contents'⟩ := out'
      cases hanswer with
      | failed => exact ⟨rfl, h.commands, h.keeper, hsame⟩
      | same => rcases x with (_ | _) | _ <;> exact ⟨rfl, h.commands, h.keeper, hsame⟩
    · rw [Faults.around_of_some hsome, Faults.around_of_some hsome']
      exact ⟨rfl, h.commands, h.keeper, h.contents⟩

theorem handle_like (hg : g.settings = .ok s) (hd : d.Like d') (h : st.Like s st') :
    (handle g d r st).1 = (handle g d' r st').1 ∧
      (handle g d r st).2.Like s (handle g d' r st').2 := by
  unfold handle
  split
  · exact ⟨rfl, h⟩
  · split
    · exact ⟨rfl, h⟩
    · rename_i place _
      split
      · cases place with
        | command => exact command_like hg hd h
        | readiness =>
          obtain ⟨hready, hlike⟩ := ready_like hg hd h
          exact ⟨congrArg (fun ok => Except.ok (readiness ok)) hready, hlike⟩
        | health | description | page | otherPage | returnPage => exact ⟨rfl, h⟩
      · exact ⟨rfl, h⟩

/-- With faulty settings a request is answered by itself. -/
theorem handle_of_faults {faults : Settings.Faults} (hg : g.settings = .error faults) :
    (handle g d r st).1 = (handle g d' r st').1 := by
  unfold handle
  split
  · rfl
  · split
    · rfl
    · rename_i place _
      split
      · cases place with
        | command => simp only [answer, command, hg]
        | readiness => simp only [answer, ready, hg]
        | health | description | page | otherPage | returnPage => rfl
      · rfl

end Requests

/-! ## 5. Runs -/

section Runs

variable {g : Setting} {s : Settings} {requests requests' : List (Disturbance × Request)}
  {st st' : State}

/-- Whether two runs have the same requests, under disturbances that come to the same. -/
def RequestsLike (requests requests' : List (Disturbance × Request)) : Prop :=
  List.Forall₂ (fun x x' => x.1.Like x'.1 ∧ x.2 = x'.2) requests requests'

theorem serve_like (hg : g.settings = .ok s) (hr : RequestsLike requests requests')
    (h : st.Like s st') : (serve g requests st).1 = (serve g requests' st').1 := by
  induction hr generalizing st st' with
  | nil => rfl
  | @cons x x' requests requests' hx _ ih =>
    obtain ⟨d, r⟩ := x
    obtain ⟨d', r'⟩ := x'
    obtain ⟨hd, rfl⟩ : d.Like d' ∧ r = r' := hx
    obtain ⟨hanswer, hnext⟩ := handle_like (r := r) hg hd h
    have hrest := ih hnext
    simp only [serve, hanswer, hrest]

theorem serve_of_faults {faults : Settings.Faults} (hg : g.settings = .error faults)
    (hr : RequestsLike requests requests') :
    (serve g requests st).1 = (serve g requests' st').1 := by
  induction hr generalizing st st' with
  | nil => rfl
  | @cons x x' requests requests' hx _ ih =>
    obtain ⟨d, r⟩ := x
    obtain ⟨d', r'⟩ := x'
    obtain ⟨-, rfl⟩ : d.Like d' ∧ r = r' := hx
    have hanswer : (handle g d r st).1 = (handle g d' r st').1 := handle_of_faults hg
    have hrest : (serve g requests (handle g d r st).2).1
        = (serve g requests' (handle g d' r st').2).1 := ih
    simp only [serve, hanswer, hrest]

end Runs

/-! ## 6. A store and a server that fail -/

/-- **A lookup that fails** is answered by what is made of its error. -/
theorem answer_of_lookup {g : Setting} {s : Settings} {d : Disturbance} {r : Request} {st : State}
    (hg : g.settings = .ok s) (h : r.looksUp s st.commands = true) {f : Failure}
    (hf : (expected s d r.arrival st.keeper).1 = .error f) :
    (handle g d r st).1 = unavailable f := by
  have hcheck := (looksUp_iff.mp h).2.2
  have hfate := fate_of_looksUp (d := d) hg h
  generalize (handle g d r st).1 = a, (handle g d r st).2 = st' at hfate ⊢
  cases hfate with
  | check hc => exact absurd hc hcheck
  | unknown _ he =>
    rw [he] at hf
    rw [Except.error.inj hf]
  | unjudged _ he | forbidden _ he | storeless _ he | done _ he =>
    rw [he] at hf
    cases hf

/-- A server that cannot be reached, and then has the secret. -/
def unreachableScript : List Vault.Exchange :=
  .raised (.transport .connectError "no route to vault") :: failingScript.tail

def failingList (f : Failure) : Disturbance :=
  { Disturbance.none with faults := Faults.ofMethods fun m => if m = .list then some f else none }

/-! ## 7. Two runs -/

/-- **Causes stay inside.**  In two runs of the same requests, let the same befall the provider and
the handlers, and the same calls on the stores fail, each with failures none of which is an error
of ours, or with the same failure.  Let opening the table come to the same on both disks.  If a
secret is read, let its requests go to a server, and let the same of them fail.  Then all requests
are answered the same in both runs. -/
theorem causes_hidden {g : Setting} {script script' : List Vault.Exchange} {disk disk' : Disk}
    {requests requests' : List (Disturbance × Request)}
    (hrequests : RequestsLike requests requests')
    (hdisks : ∀ s, g.settings = .ok s →
      (Location.ofPath disk s.appDb).Like (Location.ofPath disk' s.appDb))
    (hscripts : ∀ s p, g.settings = .ok s → Provider.ofSettings s = .ok p →
      p.ScriptsLike script script') :
    (serve g requests (.init script disk)).1 = (serve g requests' (.init script' disk')).1 := by
  cases hg : g.settings with
  | error faults => exact serve_of_faults hg hrequests
  | ok s =>
    refine serve_like hg hrequests ⟨rfl, fun p hp => ?_, fun q => ?_⟩
    · exact ⟨rfl, rfl, hscripts s p hg hp⟩
    · exact ⟨rfl, rfl, hdisks s hg⟩

/-- The first command is told that the token is not available, and the second that the store fails,
whether the server refuses or cannot be reached, and whether the table is locked or slow. -/
theorem causes_hidden_list :
    let g : Setting := ⟨.ok gateSettings, id⟩
    let locked := failingList (.database "database is locked")
    let slow := failingList (.plain .timeout "slow disk")
    let requests := [(locked, gateRequest), (locked, gateRequest)]
    let requests' := [(slow, gateRequest), (slow, gateRequest)]
    (serve g requests (.init failingScript ⟨[], []⟩)).1 =
      (serve g requests' (.init unreachableScript ⟨[], []⟩)).1 := by
  intro g locked slow requests requests'
  have hlike : locked.Like slow := by
    refine ⟨rfl, fun _ => rfl, fun n c => ?_⟩
    by_cases hc : c.method = .list
    · simp only [locked, slow, failingList, Faults.ofMethods, hc, if_true]
      exact .some (.inr ⟨rfl, rfl⟩)
    · simp only [locked, slow, failingList, Faults.ofMethods, hc, if_false]
      exact .none
  have hrequests : RequestsLike requests requests' :=
    .cons ⟨hlike, rfl⟩ (.cons ⟨hlike, rfl⟩ .nil)
  refine causes_hidden hrequests (fun _ _ => .refl _) fun s p hs hp => ?_
  obtain rfl := Except.ok.inj hs
  have hprovider : Provider.ofSettings gateSettings = .ok (.remote gateClient "slack" 120.0) := rfl
  obtain rfl := Except.ok.inj (hprovider.symm.trans hp)
  obtain ⟨sent, hsent, hserver⟩ := request_gateClient
  refine ⟨fun r hr => ?_, fun n => ?_⟩
  · obtain rfl := Except.ok.inj (hsent.symm.trans hr)
    exact hserver
  · match n with
    | 0 => exact .inr ⟨.refused (by decide), .raised rfl⟩
    | 1 | n + 2 => exact .inl rfl

/-- **Brackets nested too deep have no secret and tell of themselves:** an error escapes, where a
server that refuses is answered that the token is not available. -/
theorem deepBody_tells :
    let g : Setting := ⟨.ok gateSettings, id⟩
    let deep : List UInt8 := List.replicate 3000 0x5B
    ¬ Vault.HasSecret gateClient.field deep ∧
      (handle g .none gateRequest (.init [.reply 500 []] ⟨[], []⟩)).1 = .ok tokenUnavailable ∧
      ∃ e, (handle g .none gateRequest (.init [.reply 200 deep] ⟨[], []⟩)).1 = .error e := by
  intro g deep
  have hg : g.settings = .ok gateSettings := rfl
  obtain ⟨sent, hsent, hserver⟩ := request_gateClient
  have hdeep : Vault.isTooDeep deep = true := Vault.isTooDeep_brackets (by decide)
  have hlooks (st : State) (h : st.commands = 0) :
      gateRequest.looksUp gateSettings st.commands = true := by
    rw [h]
    decide +kernel
  -- What the server gives first decides what the command is answered.
  have hanswer {e : Vault.Exchange} {f : Failure}
      (hj : gateClient.judge "slack" none e = .error f) :
      (handle g .none gateRequest (.init [e] ⟨[], []⟩)).1 = unavailable f := by
    have hlookup : (expected gateSettings .none gateRequest.arrival
        (State.init [e] ⟨[], []⟩).keeper).1 = .error f := by
      rw [expected_eq (p := .remote gateClient "slack" 120.0) rfl rfl, lookup_of_invalid rfl]
      simp only [Vault.Client.read, hsent, hserver]
      exact hj
    exact answer_of_lookup hg (hlooks _ rfl) hlookup
  have hrefused : (handle g .none gateRequest (.init [.reply 500 []] ⟨[], []⟩)).1
      = .ok tokenUnavailable := hanswer (Vault.Client.judge_refused [] (by decide))
  have hescapes : ∃ f, (handle g .none gateRequest (.init [.reply 200 deep] ⟨[], []⟩)).1
      = unavailable f ∧ ∃ t nest, f = .malformed t (.depth nest) := by
    obtain ⟨t, nest, hj⟩ : ∃ t nest, gateClient.judge "slack" none (.reply 200 deep) =
        .error (.malformed t (.depth nest)) :=
      Vault.Client.judge_of_isTooDeep (by decide) hdeep
    exact ⟨_, hanswer hj, t, nest, rfl⟩
  obtain ⟨f, hf, t, nest, rfl⟩ := hescapes
  exact ⟨Vault.Client.not_hasSecret_of_isTooDeep hdeep, hrefused, _, hf⟩

end Service

end Tombola
