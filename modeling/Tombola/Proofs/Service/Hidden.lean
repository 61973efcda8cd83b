import Tombola.Proofs.Service.Asking
import Tombola.Proofs.Settings.Twins
/-!
# Requests do not tell the token

The service compares the token of a form with the one that it expects, and that is all it does
with either.  So take two environments that are equal but for the expected token, which is `t` in
one and `t'` in the other, be it in the settings or in what the secret server replies.  If no
request tells the tokens apart, because its form has `t` exactly if it has `t'`, then all
responses are the same in both, and all groups.

The two runs are taken side by side.  Whatever holds a token in one of them, a result of a lookup
or what is kept, holds the same in the other, or it holds `t` here and `t'` there: they are twins.
A lookup takes twins to twins (`Provider.lookup_twins`), and a form is judged the same against twins
(`judge_twins`); from there on the token plays no part (`admitted_twins`).

Main statements:

* `judge_twins`: a comparison tells the tokens apart only if the form is equal to one of them;
* `Provider.lookup_twins`, `Provider.ofSettings_twins`: what is looked up;
* `serve_twins`: two runs of the same requests.
-/

namespace Tombola

/-- **Results that are equal but for the token.** -/
inductive Token.Twins (t t' : String) : Except Failure Text → Except Failure Text → Prop where
  | same (r : Except Failure Text) : Twins t t' r r
  | tokens : Twins t t' (.ok (Text.ofString t)) (.ok (Text.ofString t'))

/-! ## 1. Replies -/

section Replies

open Vault

variable {t t' : String} {c : Client} {name : String} {e e' : Exchange}

/-- **Exchanges that are equal but for the token:** they are one, or the secret of one is `t` and
that of the other `t'`. -/
def Vault.Exchange.Twins (t t' : String) (c : Client) (name : String) (e e' : Exchange) : Prop :=
  e = e' ∨
    c.judge name none e = .ok (Text.ofString t) ∧ c.judge name none e' = .ok (Text.ofString t')

theorem Vault.Client.reply_of_judge {text : Text} (h : c.judge name none e = .ok text) :
    ∃ status body, e = .reply status body := by
  cases e with
  | reply status body => exact ⟨status, body, rfl⟩
  | raised f =>
    simp only [Client.judge] at h
    split at h <;> cases h

/-- Twins are judged alike, whether there is a server or not. -/
theorem Vault.Exchange.Twins.judge (h : e.Twins t t' c name e') (serverless : Option String) :
    Token.Twins t t' (c.judge name serverless e) (c.judge name serverless e') := by
  rcases h with rfl | ⟨hj, hj'⟩
  · exact .same _
  · cases serverless with
    | none =>
      rw [hj, hj']
      exact .tokens
    | some address =>
      obtain ⟨_, _, rfl⟩ := Client.reply_of_judge hj
      obtain ⟨_, _, rfl⟩ := Client.reply_of_judge hj'
      exact .same _

end Replies

/-! ## 2. Lookups -/

namespace Token

open Vault

variable {t t' : String}

/-- Leases that are equal but for the token. -/
inductive Lease.Twins (t t' : String) : Option (Lease Float) → Option (Lease Float) → Prop where
  | same (l : Option (Lease Float)) : Twins t t' l l
  | tokens (expiry : Float) :
      Twins t t' (some ⟨Text.ofString t, expiry⟩) (some ⟨Text.ofString t', expiry⟩)

theorem Lease.Twins.valid? {l l' : Option (Lease Float)} (h : Lease.Twins t t' l l')
    (now : Float) :
    (Lease.valid? now l = none ∧ Lease.valid? now l' = none) ∨
      ∃ x x', Lease.valid? now l = some x ∧ Lease.valid? now l' = some x' ∧
        Token.Twins t t' (.ok x) (.ok x') := by
  cases h with
  | same l =>
    cases hl : Lease.valid? now l with
    | none => exact .inl ⟨rfl, rfl⟩
    | some x => exact .inr ⟨x, x, rfl, rfl, .same _⟩
  | tokens expiry =>
    by_cases hnow : now < expiry
    · exact .inr ⟨_, _, if_pos hnow, if_pos hnow, .tokens⟩
    · exact .inl ⟨if_neg hnow, if_neg hnow⟩

/-- A lease of what was found begins at the same instant. -/
theorem Lease.Twins.start {x x' : Text} (h : Token.Twins t t' (.ok x) (.ok x')) (ttl now : Float) :
    Lease.Twins t t' (some (.start ttl now x)) (some (.start ttl now x')) := by
  cases h with
  | same => exact .same _
  | tokens => exact .tokens _

namespace Provider

/-- **Providers that are equal but for the token.** -/
inductive Twins (t t' : String) : Provider → Provider → Prop where
  | same (p : Provider) : Twins t t' p p
  | tokens : Twins t t' (.fixed t) (.fixed t')

/-- **Whether the server replies to a provider in twins:** each of its requests gets the same from
both scripts, or the secret `t` from one and `t'` from the other. -/
def ScriptTwins (t t' : String) (script script' : List Exchange) : Provider → Prop
  | fixed _ => True
  | remote c name _ =>
    ∀ n, (Server.exchange script n).Twins t t' c name (Server.exchange script' n)

theorem ScriptTwins.refl (script : List Exchange) (p : Provider) :
    p.ScriptTwins t t' script script := by
  cases p with
  | fixed token => trivial
  | remote c name ttl => exact fun _ => .inl rfl

/-- What is kept in two runs, equal but for the token. -/
structure Memory.Twins (t t' : String) (p : Provider) (m m' : Memory) : Prop where
  lease : Lease.Twins t t' m.lease m'.lease
  asked : m.server.asked = m'.server.asked
  scripts : p.ScriptTwins t t' m.server.script m'.server.script

variable {p p' : Provider} {m m' : Memory} {c : Client} {name : String} {ttl : Float}

theorem read_twins (h : m.Twins t t' (remote c name ttl) m') :
    Token.Twins t t' (c.read name m.server).1 (c.read name m'.server).1 ∧
      (c.read name m.server).2.asked = (c.read name m'.server).2.asked := by
  have hnext : m.server.next.Twins t t' c name m'.server.next := by
    rw [Server.next_eq, Server.next_eq, ← h.asked]
    exact h.scripts _
  have hasked := h.asked
  simp only [Client.read_asked, hasked, and_true]
  unfold Client.read
  cases c.request name with
  | error f => exact .same _
  | ok r => exact hnext.judge r.serverless

theorem lookup_twins (now : Float) (hp : p.Twins t t' p') (h : m.Twins t t' p m') :
    Token.Twins t t' (p.lookup now m).1 (p'.lookup now m').1 ∧
      (p.lookup now m).2.Twins t t' p (p'.lookup now m').2 := by
  cases hp with
  | tokens => exact ⟨.tokens, h⟩
  | same =>
    cases p with
    | fixed token => exact ⟨.same _, h⟩
    | remote c name ttl =>
      rcases h.lease.valid? now with ⟨hv, hv'⟩ | ⟨x, x', hv, hv', htwins⟩
      · -- Nothing is kept that is still valid, so both read, and what they find begins a lease.
        obtain ⟨hfound, hasked⟩ := read_twins h
        have hscript := Client.read_script c name m.server
        have hscript' := Client.read_script c name m'.server
        have hscripts : (remote c name ttl).ScriptTwins t t' (c.read name m.server).2.script
            (c.read name m'.server).2.script := by
          rw [hscript, hscript']
          exact h.scripts
        simp only [lookup, hv, hv']
        rcases hread : c.read name m.server with ⟨r, server⟩
        rcases hread' : c.read name m'.server with ⟨r', server'⟩
        rw [hread, hread'] at hfound hasked hscripts
        rcases r with f | x
        · obtain rfl : r' = .error f := by
            cases hfound
            rfl
          exact ⟨.same _, h.lease, hasked, hscripts⟩
        · rcases r' with f' | x'
          · cases hfound
          · exact ⟨hfound, .start hfound ttl now, hasked, hscripts⟩
      · rw [lookup_of_valid hv, lookup_of_valid hv']
        exact ⟨htwins, h⟩

/-- **Settings that are twins ask for providers that are twins,** or for none, if the tokens are not
empty. -/
theorem ofSettings_twins (ht : t ≠ "") (ht' : t' ≠ "") {s s' : Settings} (h : s.Twins t t' s') :
    (∃ fault, ofSettings s = .error fault ∧ ofSettings s' = .error fault) ∨
      ∃ p p', ofSettings s = .ok p ∧ ofSettings s' = .ok p' ∧ p.Twins t t' p' := by
  cases h with
  | same s =>
    cases hp : ofSettings s with
    | error fault => exact .inl ⟨fault, rfl, rfl⟩
    | ok p => exact .inr ⟨p, p, rfl, rfl, .same p⟩
  | tokens s =>
    exact .inr ⟨_, _, ofSettings_fixed (s := s.withToken t) ht,
      ofSettings_fixed (s := s.withToken t') ht', .tokens⟩

end Provider

end Token

namespace Service

open Groups Token

variable {t t' : String} {g g' : Setting} {s s' : Settings} {d : Disturbance} {now : Float}
  {form : Form} {r : Request} {st st' : State}

/-! ## 3. Commands -/

/-- **A token is only compared.**  If a form has `t` exactly if it has `t'`, then it is judged the
same against twins. -/
theorem judge_twins {given : String} (hgiven : given = t ↔ given = t') {x x' : Text}
    (h : Token.Twins t t' (.ok x) (.ok x')) : judge given x = judge given x' := by
  cases h with
  | same => rfl
  | tokens =>
    by_cases hempty : given = ""
    · rw [hempty, judge_empty, judge_empty]
    · rw [judge_ofString hempty, judge_ofString hempty]
      simp only [hgiven]

theorem expected_twins (d : Disturbance) (now : Float) (ht : t ≠ "") (ht' : t' ≠ "")
    (hs : s.Twins t t' s') {m m' : Provider.Memory}
    (h : ∀ p, Provider.ofSettings s = .ok p → m.Twins t t' p m') :
    Token.Twins t t' (expected s d now m).1 (expected s' d now m').1 ∧
      ∀ p, Provider.ofSettings s = .ok p →
        (expected s d now m).2.Twins t t' p (expected s' d now m').2 := by
  unfold expected
  split
  · exact ⟨.same _, h⟩
  · exact ⟨.same _, h⟩
  · rcases Provider.ofSettings_twins ht ht' hs with ⟨fault, hp, hp'⟩ | ⟨p, p', hp, hp', htwins⟩
    · rw [hp, hp']
      exact ⟨.same _, fun p hp => nomatch hp⟩
    · obtain ⟨hfound, hkept⟩ := Provider.lookup_twins now htwins (h p hp)
      rw [hp, hp']
      refine ⟨hfound, fun q hq => ?_⟩
      obtain rfl := Except.ok.inj hq
      exact hkept

/-- **What has become of two runs,** equal but for the token. -/
structure State.Twins (t t' : String) (settings : Except Settings.Faults Settings)
    (st st' : State) : Prop where
  commands : st.commands = st'.commands
  keeper : ∀ s p, settings = .ok s → Provider.ofSettings s = .ok p →
    st.keeper.Twins t t' p st'.keeper
  contents : st.contents = st'.contents

/-- **An admitted command is answered the same,** in runs that differ in the expected token, if the
token that is given is the expected one in both or in neither. -/
theorem admitted_twins (ht : t ≠ "") (ht' : t' ≠ "") (hshuffle : g.shuffle = g'.shuffle)
    (hs : s.Twins t t' s') (hgiven : form.value "token" = t ↔ form.value "token" = t')
    (h : st.Twins t t' (.ok s) st') :
    (admitted g s d now form st).1 = (admitted g' s' d now form st').1 ∧
      (admitted g s d now form st).2.Twins t t' (.ok s) (admitted g' s' d now form st').2 := by
  obtain ⟨hname, hbackend, hpath, htimeout, -⟩ := hs.others
  unfold admitted
  split
  · exact ⟨rfl, h⟩
  · obtain ⟨hfound, hkept⟩ := expected_twins d now ht ht' hs fun p hp => h.keeper s p rfl hp
    rcases hx : expected s d now st.keeper with ⟨token, keeper⟩
    rcases hx' : expected s' d now st'.keeper with ⟨token', keeper'⟩
    rw [hx, hx'] at hfound hkept
    have hkeeper : ∀ s₁ p, (.ok s : Except Settings.Faults Settings) = .ok s₁ →
        Provider.ofSettings s₁ = .ok p → keeper.Twins t t' p keeper' := by
      rintro _ p ⟨⟩ hp
      exact hkept p hp
    rcases token with f | token
    · obtain rfl : token' = .error f := by
        cases hfound
        rfl
      exact ⟨rfl, h.commands, hkeeper, h.contents⟩
    · rcases token' with f' | token'
      · cases hfound
      · -- From here on the token plays no part.
        have hjudge : judge (form.value "token") token = judge (form.value "token") token' :=
          judge_twins hgiven hfound
        simp only [hjudge, hname, hbackend, hpath, htimeout, hshuffle, h.contents]
        cases judge (form.value "token") token' with
        | error f => exact ⟨rfl, h.commands, hkeeper, rfl⟩
        | ok right =>
          cases right with
          | false => exact ⟨rfl, h.commands, hkeeper, rfl⟩
          | true =>
            cases Backend.ofName s'.storeBackend s'.appDb with
            | error e => exact ⟨rfl, h.commands, hkeeper, rfl⟩
            | ok b => exact ⟨rfl, h.commands, hkeeper, rfl⟩

/-! ## 4. Requests -/

section Requests

variable (ht : t ≠ "") (ht' : t' ≠ "") (hshuffle : g.shuffle = g'.shuffle)
  (hs : Settings.ReadTwins t t' g.settings g'.settings)

include hs

/-- The readiness check does not ask for the token. -/
theorem ready_twins (h : st.Twins t t' g.settings st') :
    (ready g d st).1 = (ready g' d st').1 ∧
      (ready g d st).2.Twins t t' g.settings (ready g' d st').2 := by
  unfold ready
  generalize g.settings = settings, g'.settings = settings' at hs h ⊢
  cases hs with
  | faults faults => exact ⟨rfl, h⟩
  | @read s s' hs =>
    obtain ⟨-, hbackend, hpath, -⟩ := hs.others
    simp only [hbackend, hpath, h.contents]
    cases Backend.ofName s'.storeBackend s'.appDb with
    | error e => exact ⟨rfl, h⟩
    | ok b =>
      simp only
      split
      · exact ⟨rfl, h.commands, h.keeper, rfl⟩
      · exact ⟨rfl, h.commands, h.keeper, rfl⟩

include ht ht' hshuffle

theorem command_twins
    (hgiven : (Form.ofOctets r.body).value "token" = t ↔
      (Form.ofOctets r.body).value "token" = t')
    (h : st.Twins t t' g.settings st') :
    (command g d r st).1 = (command g' d r st').1 ∧
      (command g d r st).2.Twins t t' g.settings (command g' d r st').2 := by
  have hnext : State.Twins t t' g.settings { st with commands := st.commands + 1 }
      { st' with commands := st'.commands + 1 } :=
    ⟨congrArg (· + 1) h.commands, h.keeper, h.contents⟩
  unfold command
  generalize g.settings = settings, g'.settings = settings' at hs hnext ⊢
  cases hs with
  | faults faults => exact ⟨rfl, hnext⟩
  | @read s s' hs =>
    obtain ⟨-, -, -, -, hlimit⟩ := hs.others
    simp only [hlimit, h.commands] at hnext ⊢
    cases overLimit? s'.rateLimit (st'.commands + 1) with
    | some refusal => exact ⟨rfl, hnext⟩
    | none => exact admitted_twins ht ht' hshuffle hs hgiven hnext

/-- **A request that does not tell the tokens apart is answered the same.** -/
theorem handle_twins
    (hgiven : (Form.ofOctets r.body).value "token" = t ↔
      (Form.ofOctets r.body).value "token" = t')
    (h : st.Twins t t' g.settings st') :
    (handle g d r st).1 = (handle g' d r st').1 ∧
      (handle g d r st).2.Twins t t' g.settings (handle g' d r st').2 := by
  unfold handle
  split
  · exact ⟨rfl, h⟩
  · split
    · exact ⟨rfl, h⟩
    · rename_i place _
      split
      · cases place with
        | command => exact command_twins ht ht' hshuffle hs hgiven h
        | readiness =>
          obtain ⟨hready, hkept⟩ := ready_twins (d := d) hs h
          exact ⟨congrArg (fun ok => Except.ok (readiness ok)) hready, hkept⟩
        | health | description | page | otherPage | returnPage => exact ⟨rfl, h⟩
      · exact ⟨rfl, h⟩

/-- **A run whose requests do not tell the tokens apart is answered the same,** and leaves the same
groups. -/
theorem serve_twins {requests : List (Disturbance × Request)}
    (hgiven : ∀ x ∈ requests, (Form.ofOctets x.2.body).value "token" = t ↔
      (Form.ofOctets x.2.body).value "token" = t')
    (h : st.Twins t t' g.settings st') :
    (serve g requests st).1 = (serve g' requests st').1 ∧
      (serve g requests st).2.Twins t t' g.settings (serve g' requests st').2 := by
  induction requests generalizing st st' with
  | nil => exact ⟨rfl, h⟩
  | cons x requests ih =>
    obtain ⟨d, r⟩ := x
    obtain ⟨hanswer, hnext⟩ :=
      handle_twins (d := d) ht ht' hshuffle hs (hgiven _ List.mem_cons_self) h
    obtain ⟨hanswers, hlast⟩ := ih (fun x hx => hgiven x (List.mem_cons_of_mem _ hx)) hnext
    exact ⟨congrArg₂ (· :: ·) hanswer hanswers, hlast⟩

end Requests

end Service

end Tombola
