import Tombola.Proofs.Service.Answers
/-!
# The secret server is asked until it first answers

A command that is admitted and checks no certificate looks the expected token up.  While no secret
is kept, that is one request to the secret server; a reply without a secret is forgotten, and the
next lookup asks again.  The first secret is kept.  If its time to live is longer than the run, the
server is not asked any more, and every later command is judged against this secret, whether it is
refused or carried out.

What a run has kept after so many lookups is `Kept`: nothing, after as many requests as lookups,
or the first secret of the script, after as many requests as it took to get it.  A lookup leads
from `Kept` to `Kept` (`Kept.lookup`), every other request leaves it alone.

Main statements:

* `Kept.lookup`: what a lookup finds and keeps;
* `serve_kept`: what a run keeps;
* `asked_until_answered`: what the server is asked in a run, and what the lookups are answered.
-/

namespace Tombola

/-! ## 1. The first secret of a script -/

namespace Vault

/-- The exchange for the `n`-th request to a scripted server, counted from zero. -/
def Server.exchange (script : List Exchange) (n : Nat) : Exchange :=
  match script[n]? with
  | some e => e
  | none => script.getLast?.getD (.reply 500 [])

theorem Server.next_eq (s : Server) : s.next = exchange s.script s.asked := rfl

/-- Whether the first secret in a script is a text, in the exchange number `k`. -/
structure Client.FirstSecret (c : Client) (name : String) (script : List Exchange) (k : Nat)
    (t : Text) : Prop where
  judge_eq : c.judge name none (Server.exchange script k) = .ok t
  before : ∀ j < k, ∃ f, c.judge name none (Server.exchange script j) = .error f

/-- There is one first secret. -/
theorem Client.FirstSecret.unique {c : Client} {name : String} {script : List Exchange}
    {k k' : Nat} {t t' : Text} (h : c.FirstSecret name script k t)
    (h' : c.FirstSecret name script k' t') : k = k' ∧ t = t' := by
  have hk : k = k' := by
    rcases Nat.lt_trichotomy k k' with hlt | rfl | hlt
    · obtain ⟨f, hf⟩ := h'.before k hlt
      rw [h.judge_eq] at hf
      cases hf
    · rfl
    · obtain ⟨f, hf⟩ := h.before k' hlt
      rw [h'.judge_eq] at hf
      cases hf
  subst hk
  exact ⟨rfl, Except.ok.inj (h.judge_eq.symm.trans h'.judge_eq)⟩

theorem Client.ne_nil_of_judge {c : Client} {name : String} {e : Exchange} {t : Text}
    (h : c.judge name none e = .ok t) : t ≠ [] := by
  cases e with
  | raised f =>
    simp only [judge] at h
    split at h <;> cases h
  | reply status body =>
    simp only [judge] at h
    split at h
    · cases h
    · unfold secretIn at h
      simp only at h
      split at h
      · cases h
      · split at h
        · cases h
        · cases h
        · split at h
          · cases h
          · cases h
            exact List.cons_ne_nil _ _
          · cases h

end Vault

/-! ## 2. What lookups keep -/

namespace Token.Provider

open Vault

/-- **What is kept after `n` lookups**, all at instants of a list: nothing, after `n` requests none
of which brought a secret, or the first secret, after the requests that it took to get it. -/
inductive Memory.Kept (c : Client) (name : String) (ttl : Float) (script : List Exchange) (n : Nat)
    (times : List Float) : Memory → Prop
  | nothing {server : Server} (hscript : server.script = script) (hasked : server.asked = n)
      (hnone : ∀ j < n, ∃ f, c.judge name none (Server.exchange script j) = .error f) :
      Kept c name ttl script n times ⟨none, server⟩
  | secret {server : Server} {k : Nat} {t : Text} {now : Float} (hscript : server.script = script)
      (hasked : server.asked = k + 1) (hk : k < n) (hfirst : c.FirstSecret name script k t)
      (hnow : now ∈ times) : Kept c name ttl script n times ⟨some (.start ttl now t), server⟩

namespace Memory.Kept

variable {c : Client} {name : String} {ttl now : Float} {script : List Exchange} {n : Nat}
  {times : List Float} {m : Memory}

theorem script_eq (h : m.Kept c name ttl script n times) : m.server.script = script := by
  cases h with
  | nothing hscript => exact hscript
  | secret hscript => exact hscript

/-- While no secret has come, as many requests were made as lookups. -/
theorem asked_of_none (h : m.Kept c name ttl script n times)
    (hnone : ∀ j < n, ∃ f, c.judge name none (Server.exchange script j) = .error f) :
    m.server.asked = n := by
  cases h with
  | nothing hscript hasked => exact hasked
  | secret hscript hasked hk hfirst =>
    obtain ⟨f, hf⟩ := hnone _ hk
    rw [hfirst.judge_eq] at hf
    cases hf

/-- When the first secret has come, no request was made after that. -/
theorem asked_of_first (h : m.Kept c name ttl script n times) {k : Nat} {t : Text}
    (hfirst : c.FirstSecret name script k t) (hk : k < n) : m.server.asked = k + 1 := by
  cases h with
  | nothing hscript hasked hnone =>
    obtain ⟨f, hf⟩ := hnone k hk
    rw [hfirst.judge_eq] at hf
    cases hf
  | secret hscript hasked _ hfirst' =>
    obtain ⟨rfl, -⟩ := hfirst.unique hfirst'
    exact hasked

theorem mono {times' : List Float} (h : m.Kept c name ttl script n times) (hsub : times ⊆ times') :
    m.Kept c name ttl script n times' := by
  cases h with
  | nothing hscript hasked hnone => exact .nothing hscript hasked hnone
  | secret hscript hasked hk hfirst hnow => exact .secret hscript hasked hk hfirst (hsub hnow)

/-- **What a lookup keeps and finds**, if the request can be sent to a server and the time to live
of what was found before is not over. -/
theorem lookup {r : Client.Request} (h : m.Kept c name ttl script n times)
    (hr : c.request name = .ok r) (hserver : r.serverless = none)
    (hfresh : ∀ x ∈ times, now < x + ttl) :
    ((remote c name ttl).lookup now m).2.Kept c name ttl script (n + 1) (times ++ [now]) ∧
      ((∀ j < n + 1, ∃ f, c.judge name none (Server.exchange script j) = .error f) →
        ∃ f, ((remote c name ttl).lookup now m).1 = .error f) ∧
      ∀ k < n + 1, ∀ t, c.FirstSecret name script k t →
        ((remote c name ttl).lookup now m).1 = .ok t := by
  cases h with
  | @nothing server hscript hasked hnone =>
    have hread : c.read name server =
        (c.judge name none (Server.exchange script n), server.note r) := by
      simp only [Client.read, hr, hserver, Server.next_eq, hscript, hasked]
    have hcount : (server.note r).asked = n + 1 := by
      rw [← hasked]
      exact List.length_append
    have hinvalid : Lease.valid? now (none : Option (Lease Float)) = none := rfl
    cases hj : c.judge name none (Server.exchange script n) with
    | error f =>
      have hlookup : (remote c name ttl).lookup now ⟨none, server⟩ =
          (.error f, ⟨none, server.note r⟩) := by
        simp only [Provider.lookup, hinvalid, hread, hj]
      have hall : ∀ j < n + 1, ∃ f, c.judge name none (Server.exchange script j) = .error f := by
        intro j hlt
        rcases Nat.lt_succ_iff_lt_or_eq.mp hlt with hlt | rfl
        · exact hnone j hlt
        · exact ⟨f, hj⟩
      rw [hlookup]
      refine ⟨.nothing hscript hcount hall, fun _ => ⟨f, rfl⟩, fun k hk t hfirst => ?_⟩
      obtain ⟨g, hg⟩ := hall k hk
      rw [hfirst.judge_eq] at hg
      cases hg
    | ok t =>
      have hlookup : (remote c name ttl).lookup now ⟨none, server⟩ =
          (.ok t, ⟨some (.start ttl now t), server.note r⟩) := by
        simp only [Provider.lookup, hinvalid, hread, hj]
      have hfirst : c.FirstSecret name script n t := ⟨hj, hnone⟩
      rw [hlookup]
      refine ⟨.secret hscript hcount (Nat.lt_succ_self n) hfirst (by simp), fun hall => ?_,
        fun k _ t' hfirst' => ?_⟩
      · obtain ⟨f, hf⟩ := hall n (Nat.lt_succ_self n)
        rw [hj] at hf
        cases hf
      · rw [(hfirst.unique hfirst').2]
  | @secret server k t since hscript hasked hk hfirst hsince =>
    have hvalid : Lease.valid? now (some (Lease.start ttl since t)) = some t :=
      Lease.valid?_eq_some_iff.mpr ⟨_, rfl, hfresh since hsince, rfl⟩
    rw [lookup_of_valid hvalid]
    refine ⟨.secret hscript hasked (Nat.lt_succ_of_lt hk) hfirst (List.mem_append_left _ hsince),
      fun hall => ?_, fun k' _ t' hfirst' => ?_⟩
    · obtain ⟨f, hf⟩ := hall k (Nat.lt_succ_of_lt hk)
      rw [hfirst.judge_eq] at hf
      cases hf
    · rw [(hfirst.unique hfirst').2]

end Memory.Kept

end Token.Provider

namespace Service

open Groups Token Provider

/-! ## 3. Lookups in a run -/

/-- Whether a request looks the expected token up that comes in after `n` commands: a command
within the limit that checks no certificate. -/
def Request.looksUp (s : Settings) (n : Nat) (r : Request) : Bool :=
  r.isCommand && (s.rateLimit < 0 || n < s.rateLimit) &&
    (Form.ofOctets r.body).value "ssl_check" ≠ "1"

/-- How many of some requests look the expected token up, after `n` commands. -/
def lookups (s : Settings) : Nat → List Request → Nat
  | _, [] => 0
  | n, r :: rest =>
    (if r.looksUp s n then 1 else 0) + lookups s (n + if r.isCommand then 1 else 0) rest

section Fate

variable {g : Setting} {s : Settings} {d : Disturbance} {now : Float} {form : Form} {st st' : State}
  {a : Except Escape Response}

theorem Fate.keeper_eq (h : Fate g s d now form st a st') (hs : form.value "ssl_check" ≠ "1") :
    st'.keeper = (expected s d now st.keeper).2 := by
  cases h with
  | check hc => exact absurd hc hs
  | unknown _ he | unjudged _ he | forbidden _ he | storeless _ he | done _ he => rw [he]

/-- Where the expected token is not available, the stores are left alone. -/
theorem Fate.contents_eq (h : Fate g s d now form st a st') {f : Failure}
    (hf : (expected s d now st.keeper).1 = .error f) : st'.contents = st.contents := by
  cases h with
  | check | unknown | unjudged | forbidden | storeless => rfl
  | done _ he =>
    rw [he] at hf
    cases hf

end Fate

section Step

variable {g : Setting} {s : Settings} {d : Disturbance} {r : Request} {st : State} {p : Provider}

theorem looksUp_iff {n : Nat} :
    r.looksUp s n = true ↔ r.isCommand = true ∧ (s.rateLimit < 0 ∨ n < s.rateLimit) ∧
      (Form.ofOctets r.body).value "ssl_check" ≠ "1" := by
  simp [Request.looksUp, and_assoc]

/-- **A request that looks nothing up** leaves alone what is kept and the secret server. -/
theorem keeper_of_not_looksUp (hg : g.settings = .ok s) (h : r.looksUp s st.commands = false) :
    (handle g d r st).2.keeper = st.keeper := by
  cases hcommand : r.isCommand with
  | false =>
    obtain ⟨contents, hother, -⟩ : ∃ contents, (handle g d r st).2 = _ ∧ _ :=
      state_of_other hcommand
    rw [hother]
  | true =>
    by_cases hl : s.rateLimit < 0 ∨ st.commands < s.rateLimit
    · by_cases hcheck : (Form.ofOctets r.body).value "ssl_check" = "1"
      · rw [handle_admitted hcommand hg hl, gate_ssl hcheck]
      · rw [looksUp_iff.mpr ⟨hcommand, hl, hcheck⟩] at h
        cases h
    · rw [handle_limited hcommand hg hl]

/-- What comes of a request that looks the expected token up. -/
theorem fate_of_looksUp (hg : g.settings = .ok s) (h : r.looksUp s st.commands = true) :
    Fate g s d r.arrival (Form.ofOctets r.body) { st with commands := st.commands + 1 }
      (handle g d r st).1 (handle g d r st).2 := by
  obtain ⟨hcommand, hl, -⟩ := looksUp_iff.mp h
  rw [handle_admitted hcommand hg hl]
  exact fate_admitted

theorem keeper_of_looksUp (hg : g.settings = .ok s) (hd : d.provider = none)
    (hp : Provider.ofSettings s = .ok p) (h : r.looksUp s st.commands = true) :
    (handle g d r st).2.keeper = (p.lookup r.arrival st.keeper).2 := by
  rw [(fate_of_looksUp hg h).keeper_eq (looksUp_iff.mp h).2.2, expected_eq hd hp]

/-- **A lookup that fails** is answered that the token is not available, if it does not stumble,
and the stores are left alone. -/
theorem unavailable_of_looksUp (hg : g.settings = .ok s) (hd : d.provider = none)
    (hp : Provider.ofSettings s = .ok p) (h : r.looksUp s st.commands = true)
    (ho : st.keeper.server.next.isOrdinary = true) (hn : ¬ p.Stumbles r.arrival st.keeper)
    {f : Failure} (hf : (p.lookup r.arrival st.keeper).1 = .error f) :
    (handle g d r st).1 = .ok tokenUnavailable ∧
      (handle g d r st).2.contents = st.contents := by
  have hfate := fate_of_looksUp (d := d) hg h
  have hexpected : (expected s d r.arrival st.keeper).1 = .error f := by rw [expected_eq hd hp, hf]
  exact ⟨hfate.tokenUnavailable hd hp ho (looksUp_iff.mp h).2.2 hn hf, hfate.contents_eq hexpected⟩

/-- **A lookup that finds a secret** is judged against it: the command is refused if its token is
another, and else it is carried out if there is a store. -/
theorem judged_of_looksUp (hg : g.settings = .ok s) (hd : d.provider = none)
    (hp : Provider.ofSettings s = .ok p) (h : r.looksUp s st.commands = true) {secret : String}
    (hsecret : secret ≠ "")
    (hf : (p.lookup r.arrival st.keeper).1 = .ok (Text.ofString secret)) :
    status? (handle g d r st).1 =
      if (Form.ofOctets r.body).value "token" = secret then
        (Backend.ofName s.storeBackend s.appDb).toOption.map fun _ => 200
      else some 403 := by
  have hexpected : (expected s d r.arrival st.keeper).1 = .ok (Text.ofString secret) := by
    rw [expected_eq hd hp, hf]
  rw [(fate_of_looksUp hg h).status_of_known (looksUp_iff.mp h).2.2 hexpected]
  by_cases hgiven : (Form.ofOctets r.body).value "token" = ""
  · have hne : (Form.ofOctets r.body).value "token" ≠ secret := hgiven ▸ hsecret.symm
    rw [hgiven, judge_empty, if_neg (hgiven ▸ hne)]
  · rw [judge_ofString hgiven]
    by_cases he : (Form.ofOctets r.body).value "token" = secret
    · simp [he]
    · simp [he]

end Step

/-! ## 4. Runs -/

section Run

variable {g : Setting} {s : Settings} {c : Vault.Client} {name : String} {ttl : Float}
  {script : List Vault.Exchange} {n : Nat} {times : List Float} {st : State}
  {sent : Vault.Client.Request}

theorem handle_kept {d : Disturbance} {r : Request} (hg : g.settings = .ok s)
    (hp : Provider.ofSettings s = .ok (.remote c name ttl)) (hsent : c.request name = .ok sent)
    (hserver : sent.serverless = none) (hd : d.provider = none)
    (hst : st.keeper.Kept c name ttl script n times) (hfresh : ∀ x ∈ times, r.arrival < x + ttl) :
    (handle g d r st).2.keeper.Kept c name ttl script
      (n + if r.looksUp s st.commands then 1 else 0) (times ++ [r.arrival]) := by
  cases h : r.looksUp s st.commands with
  | false =>
    rw [keeper_of_not_looksUp hg h]
    exact hst.mono (List.subset_append_left ..)
  | true =>
    rw [keeper_of_looksUp hg hd hp h]
    exact (hst.lookup hsent hserver hfresh).1

theorem commands_handle {d : Disturbance} {r : Request} :
    (handle g d r st).2.commands = st.commands + if r.isCommand then 1 else 0 := by
  cases h : r.isCommand with
  | false =>
    obtain ⟨contents, hother, -⟩ : ∃ contents, (handle g d r st).2 = _ ∧ _ := state_of_other h
    rw [hother]
    rfl
  | true => exact handle_commands h

/-- **What a run keeps**, if the time to live of a secret is not over before the run is: as long as
no request has brought the secret nothing is kept, and after that the first secret is, with the
requests that it took to get it. -/
theorem serve_kept (hg : g.settings = .ok s)
    (hp : Provider.ofSettings s = .ok (.remote c name ttl)) (hsent : c.request name = .ok sent)
    (hserver : sent.serverless = none) (requests : List (Disturbance × Request))
    (hd : ∀ x ∈ requests, x.1.provider = none)
    (hst : st.keeper.Kept c name ttl script n times)
    (hold : ∀ x ∈ times, ∀ y ∈ requests, y.2.arrival < x + ttl)
    (hfresh : requests.Pairwise fun x y => y.2.arrival < x.2.arrival + ttl) :
    (serve g requests st).2.keeper.Kept c name ttl script
      (n + lookups s st.commands (requests.map (·.2)))
      (times ++ requests.map (·.2.arrival)) := by
  induction requests generalizing st n times with
  | nil => simpa [serve, lookups] using hst
  | cons x requests ih =>
    obtain ⟨d, r⟩ := x
    obtain ⟨hfirst, hrest⟩ := List.pairwise_cons.mp hfresh
    have hone := handle_kept hg hp hsent hserver (hd _ (List.mem_cons_self ..)) hst
      fun x hx => hold x hx _ (List.mem_cons_self ..)
    have hlater : ∀ x ∈ times ++ [r.arrival], ∀ y ∈ requests, y.2.arrival < x + ttl := by
      intro x hx y hy
      rcases List.mem_append.mp hx with hx | hx
      · exact hold x hx y (List.mem_cons_of_mem _ hy)
      · rw [List.mem_singleton.mp hx]
        exact hfirst y hy
    have hall := ih (fun y hy => hd y (List.mem_cons_of_mem _ hy)) hone hlater hrest
    have hserve : (serve g ((d, r) :: requests) st).2 = (serve g requests (handle g d r st).2).2 :=
      rfl
    rw [hserve]
    simp only [List.map_cons, lookups]
    rw [commands_handle] at hall
    simpa [Nat.add_assoc] using hall

end Run

/-! ## 5. A server that fails first -/

/-- The client of the settings that name a secret. -/
def gateClient : Vault.Client := ⟨"https://vault", "secret", "value", "v"⟩

theorem request_gateClient :
    ∃ sent, gateClient.request "slack" = .ok sent ∧ sent.serverless = none := by
  have hsent : (gateClient.request "slack").toOption =
      some ⟨"/v1/secret/data/slack", "vault", "v", none⟩ := by decide +kernel
  exact ⟨_, ok_of_toOption hsent, rfl⟩

def otherRequest : Request :=
  .make "POST" "/slack" (Utf8.encode "token=y&team_id=T1&text=/list") 1

/-! ## 6. From the first request to the first answer -/

/-- **The secret server is asked until it first answers.**  Let the expected token be a secret whose
request can be sent to a server, in a run that is over before the time to live of what was found
first, and let the exchanges be such as any server may give.  After any requests, `n` of which have
looked the token up, the server was asked `n` times if none of the first `n` exchanges has a secret,
and else just until the first one that has.  The next request asks nothing if it is no lookup.  If
it is one and there is no secret yet, it is answered that the token is not available, and the
stores are left alone; and from the first secret on it is judged against this secret. -/
theorem asked_until_answered {s : Settings} {c : Vault.Client} {name : String} {ttl : Float}
    {sent : Vault.Client.Request} (hp : Provider.ofSettings s = .ok (.remote c name ttl))
    (hsent : c.request name = .ok sent) (hserver : sent.serverless = none)
    {script : List Vault.Exchange} (hscript : ∀ e ∈ script, e.isOrdinary = true)
    (shuffle : Command.Shuffle) (disk : Disk) {before : List (Disturbance × Request)}
    {d : Disturbance} {r : Request} (hd : ∀ x ∈ before ++ [(d, r)], x.1.provider = none)
    (hfresh : (before ++ [(d, r)]).Pairwise fun x y => y.2.arrival < x.2.arrival + ttl) :
    let g : Setting := ⟨.ok s, shuffle⟩
    let st := (serve g before (.init script disk)).2
    let n := lookups s 0 (before.map (·.2))
    let exchange := Vault.Server.exchange script
    ((∀ j < n, ∃ f, c.judge name none (exchange j) = .error f) → st.keeper.server.asked = n) ∧
    (∀ k < n, ∀ t, c.FirstSecret name script k t → st.keeper.server.asked = k + 1) ∧
    (r.looksUp s st.commands = false → (handle g d r st).2.keeper = st.keeper) ∧
    (r.looksUp s st.commands = true →
      ((∀ j < n + 1, ∃ f, c.judge name none (exchange j) = .error f) →
        (handle g d r st).1 = .ok tokenUnavailable ∧
          (handle g d r st).2.contents = st.contents) ∧
      ∀ k < n + 1, ∀ secret : String, c.FirstSecret name script k (Text.ofString secret) →
        status? (handle g d r st).1 =
          if (Form.ofOctets r.body).value "token" = secret then
            (Backend.ofName s.storeBackend s.appDb).toOption.map fun _ => 200
          else some 403) := by
  intro g st n exchange
  have hg : g.settings = .ok s := rfl
  obtain ⟨hbefore, -, hlast⟩ := List.pairwise_append.mp hfresh
  have hinit : (State.init script disk).keeper.Kept c name ttl script 0 [] :=
    .nothing rfl rfl fun _ h => absurd h (Nat.not_lt_zero _)
  have hkept : st.keeper.Kept c name ttl script n (before.map (·.2.arrival)) := by
    have h := serve_kept hg hp hsent hserver before
      (fun x hx => hd x (List.mem_append_left _ hx)) hinit nofun hbefore
    rwa [Nat.zero_add, List.nil_append] at h
  have hnow : ∀ x ∈ before.map (·.2.arrival), r.arrival < x + ttl := by
    intro x hx
    obtain ⟨y, hy, rfl⟩ := List.mem_map.mp hx
    exact hlast y hy (d, r) (List.mem_singleton_self _)
  have hprovider : d.provider = none := hd (d, r) (by simp)
  obtain ⟨-, hunavailable, hfound⟩ := hkept.lookup hsent hserver hnow
  refine ⟨hkept.asked_of_none, fun k hk t ht => hkept.asked_of_first ht hk,
    keeper_of_not_looksUp hg, fun hlooks => ⟨fun hnone => ?_, fun k hk secret hfirst => ?_⟩⟩
  · obtain ⟨f, hf⟩ := hunavailable hnone
    have ho : st.keeper.server.next.isOrdinary = true :=
      Vault.Server.isOrdinary_next (hkept.script_eq.symm ▸ hscript)
    have hn : ¬ (remote c name ttl).Stumbles r.arrival st.keeper :=
      fun h => Vault.Client.not_stumbles_of_request hsent hserver h.2
    exact unavailable_of_looksUp hg hprovider hp hlooks ho hn hf
  · have hsecret : secret ≠ "" := by
      rintro rfl
      have hempty : Text.ofString "" = [] := by decide
      exact Vault.Client.ne_nil_of_judge hfirst.judge_eq hempty
    have hsays := hfound k hk _ hfirst
    exact judged_of_looksUp hg hprovider hp hlooks hsecret hsays

/-- The server is asked for the second command again, and not for the third, which is refused for
its token. -/
theorem asked_until_answered_second :
    let g : Setting := ⟨.ok gateSettings, id⟩
    let before : List (Disturbance × Request) := [(.none, gateRequest), (.none, gateRequest)]
    let st := (serve g before (.init failingScript ⟨[], []⟩)).2
    st.keeper.server.asked = 2 ∧ status? (handle g .none otherRequest st).1 = some 403 := by
  intro g before st
  obtain ⟨sent, hsent, hserver⟩ := request_gateClient
  have hp : Provider.ofSettings gateSettings = .ok (.remote gateClient "slack" 120.0) := rfl
  have hscript : ∀ e ∈ failingScript, e.isOrdinary = true := by decide +kernel
  have hquiet : ∀ x ∈ before ++ [(Disturbance.none, otherRequest)], x.1.provider = none := by
    simp [before, Disturbance.none]
  have hfresh : (before ++ [(Disturbance.none, otherRequest)]).Pairwise
      fun x y => y.2.arrival < x.2.arrival + 120.0 := by
    have hnow : gateRequest.arrival < gateRequest.arrival + 120.0 ∧
        otherRequest.arrival < gateRequest.arrival + 120.0 := by decide +kernel
    simp only [before, List.cons_append, List.nil_append, List.pairwise_cons, List.mem_cons,
      List.not_mem_nil, or_false, forall_eq_or_imp, forall_eq, hnow, and_self, List.Pairwise.nil,
      false_imp_iff, implies_true]
  obtain ⟨-, hasked, -, hlooks⟩ :=
    asked_until_answered hp hsent hserver hscript id ⟨[], []⟩ hquiet hfresh
  have hfirst : gateClient.FirstSecret "slack" failingScript 1 (Text.ofString "x") := by
    refine ⟨ok_of_toOption (by decide +kernel), fun j hj => error_of_toOption ?_⟩
    obtain rfl : j = 0 := by omega
    decide +kernel
  have htwo : lookups gateSettings 0 (before.map (·.2)) = 2 := by decide +kernel
  rw [htwo] at hasked hlooks
  have hrefused := (hlooks (by decide +kernel)).2 1 (by decide) "x" hfirst
  have hother : (Form.ofOctets otherRequest.body).value "token" ≠ "x" := by decide +kernel
  rw [if_neg hother] at hrefused
  refine ⟨?_, hrefused⟩
  simp only [st, g, hasked 1 (by decide) _ hfirst]

/-- A server that fails, and then has the first half of a surrogate pair. -/
def halfPairScript : List Vault.Exchange :=
  [.reply 500 [], .reply 200 (Utf8.encode
    "\x7b\"data\": \x7b\"data\": \x7b\"value\": \"\\ud800\"\x7d\x7d\x7d")]

/-- **A first secret that is no string refuses no command:** it is kept, and an error escapes of
every command that has a token. -/
theorem halfPair_refuses_none :
    let g : Setting := ⟨.ok gateSettings, id⟩
    let st := (serve g [(.none, gateRequest)] (.init halfPairScript ⟨[], []⟩)).2
    (∀ e ∈ halfPairScript, e.isOrdinary = true) ∧
      gateRequest.looksUp gateSettings st.commands = true ∧
      (Form.ofOctets gateRequest.body).value "token" = "x" ∧
      gateClient.FirstSecret "slack" halfPairScript 1 [.lone 0] ∧
      status? (handle g .none gateRequest st).1 = none := by
  intro g st
  have hfirst : gateClient.FirstSecret "slack" halfPairScript 1 [.lone 0] := by
    refine ⟨ok_of_toOption (by decide +kernel), fun j hj => error_of_toOption ?_⟩
    obtain rfl : j = 0 := by omega
    decide +kernel
  exact ⟨by decide +kernel, by decide +kernel, by decide +kernel, hfirst, by decide +kernel⟩

end Service

end Tombola
