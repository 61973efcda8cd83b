import Tombola.Proofs.Groups.Apart
import Tombola.Proofs.Service.Gates
/-!
# Workspaces do not influence each other

All workspaces share one service: one memory, one table, one disk.  What the commands of a
workspace are answered, and what becomes of its groups, is nevertheless what it would be if
nobody else were there.  For this the token has to be fixed, since a secret is kept for all
workspaces, and the commands have to stay within the rate limit, which counts all of them.

A request of a workspace meets contents that are the same for it and leaves such
(`handle_same`), and any other request leaves the contents the same for it (`handle_apart`).
So a run comes to the same for a workspace as the run of its own requests alone
(`serve_same`), and it does not matter how these stand among those of others.

Main statement: `workspaces_apart`.
-/

namespace Tombola.Service

open Groups Command Dialogue

/-! ## 1. Commands -/

/-- Whether two disturbances come to the same: the same befalls the provider and the handlers, and
the same calls on the store fail, with failures that come to the same. -/
structure Disturbance.Like (d d' : Disturbance) : Prop where
  provider : d.provider = d'.provider
  handler : ∀ op, d.handler op = d'.handler op
  faults : d.faults.Like d'.faults

theorem Disturbance.Like.refl (d : Disturbance) : d.Like d := ⟨rfl, fun _ => rfl, .refl _⟩

section Commands

variable {path p q name : String} {shuffle : Shuffle} {d d' : Disturbance} {b : Backend}
  {late : Bool} {words : List String} {contents contents' : Backend.Contents}

/-- The dialogue of a request that words make is guarded. -/
theorem guarded_request {r : Command.Request} (hr : Command.Request.ofWords words = .ok r) :
    (r.perform name shuffle).Guarded (Performs words) DrawError.IsRefusal := by
  rw [← perform_of_ok hr]
  exact guarded_perform name shuffle words

/-- **A command of a partition comes to the same** on contents that are the same for it, under
disturbances that come to the same. -/
theorem carryOut_same (hb : b.IsAt path) (hd : d.Like d') (h : contents.SameIn path p contents') :
    (carryOut name shuffle d (b.store late p) words contents).1.response
        = (carryOut name shuffle d' (b.store late p) words contents').1.response ∧
      (carryOut name shuffle d (b.store late p) words contents).2.SameIn path p
        (carryOut name shuffle d' (b.store late p) words contents').2 := by
  unfold carryOut
  cases hr : Command.Request.ofWords words with
  | error e => exact ⟨rfl, h⟩
  | ok r =>
    simp only [hd.handler]
    cases d'.handler r.operation with
    | some mishap => cases mishap <;> exact ⟨rfl, h⟩
    | none =>
      have hguarded : (r.perform name shuffle).Guarded (Performs words) DrawError.IsRefusal :=
        guarded_request hr
      have hstore : ∀ c s s', s.SameIn path p s' →
          Answer.Like (b.store late p c s).1 (b.store late p c s').1 ∧
            (b.store late p c s).2.SameIn path p (b.store late p c s').2 :=
        fun _ _ _ => Backend.store_sameIn hb
      obtain ⟨hends, hsame⟩ := hguarded.runWith_like hstore hd.faults h
      generalize (r.perform name shuffle).runWith d.faults (b.store late p) contents = out,
        (r.perform name shuffle).runWith d'.faults (b.store late p) contents' = out' at *
      obtain ⟨x, after⟩ := out
      obtain ⟨x', after'⟩ := out'
      cases hends with
      | same => rcases x with _ | (e | reply) <;> exact ⟨rfl, hsame⟩
      | store text text' => exact ⟨rfl, hsame⟩

/-- **A command of another partition** leaves the contents the same. -/
theorem carryOut_apart {result : Result} (hb : b.IsAt path) (h : q ≠ p)
    (hr : carryOut name shuffle d (b.store late p) words contents = (result, contents')) :
    contents.SameIn path q contents' := by
  unfold carryOut at hr
  split at hr
  · cases hr
    exact .refl ..
  · rename_i r hwords
    split at hr
    · cases hr
      exact .refl ..
    · cases hr
      exact .refl ..
    · have hrun : contents.SameIn path q
          ((r.perform name shuffle).runWith d.faults (b.store late p) contents).2 := by
        refine (guarded_request hwords).asks.runWith ?_ d.faults (.refl ..)
        intro c s _ hs
        exact hs.trans (Backend.store_apart hb (.inl h))
      split at hr <;> rename_i hx <;> cases hr <;> rwa [hx] at hrun

end Commands

/-! ## 2. Requests -/

/-- Whether a request is a command of a workspace. -/
def Request.isOf (team : String) (r : Request) : Bool :=
  r.isCommand && (Form.ofOctets r.body).value "team_id" = team

section Requests

variable {g : Setting} {s : Settings} {d : Disturbance} {r : Request} {st st' : State}
  {team : String}

/-- What is expected of a token that is fixed does not depend on what the provider keeps, and
leaves it alone. -/
theorem expected_of_fixed (ht : s.slackToken ≠ "") (now : Float) :
    ∃ token, ∀ m, expected s d now m = (token, m) := by
  unfold expected
  rw [Token.Provider.ofSettings_fixed ht]
  rcases d.provider with _ | (f | _)
  · exact ⟨_, fun _ => rfl⟩
  · exact ⟨_, fun _ => rfl⟩
  · exact ⟨_, fun _ => rfl⟩

/-- **An admitted command of a workspace comes to the same** on contents that are the same for
it. -/
theorem admitted_same {now : Float} {form : Form} (ht : s.slackToken ≠ "")
    (h : st.contents.SameIn s.appDb (form.value "team_id") st'.contents) :
    (admitted g s d now form st).1 = (admitted g s d now form st').1 ∧
      (admitted g s d now form st).2.contents.SameIn s.appDb (form.value "team_id")
        (admitted g s d now form st').2.contents := by
  obtain ⟨token, htoken⟩ := expected_of_fixed (d := d) ht now
  unfold admitted
  split
  · exact ⟨rfl, h⟩
  · simp only [htoken]
    cases token with
    | error f => exact ⟨rfl, h⟩
    | ok t =>
      simp only
      cases judge (form.value "token") t with
      | error f => exact ⟨rfl, h⟩
      | ok right =>
        cases right with
        | false => exact ⟨rfl, h⟩
        | true =>
          simp only
          cases hb : Backend.ofName s.storeBackend s.appDb with
          | error e => exact ⟨rfl, h⟩
          | ok b =>
            obtain ⟨hresponse, hsame⟩ := carryOut_same (Backend.isAt_of_ofName hb) (.refl d) h
            exact ⟨congrArg Except.ok hresponse, hsame⟩

/-- An admitted command leaves the contents the same for all other workspaces. -/
theorem Fate.apart {now : Float} {form : Form} {a : Except Escape Response}
    (h : Fate g s d now form st a st') (ht : team ≠ form.value "team_id") :
    st.contents.SameIn s.appDb team st'.contents := by
  cases h with
  | check | unknown | unjudged | forbidden | storeless => exact .refl ..
  | done _ _ _ hb _ hr => exact carryOut_apart (Backend.isAt_of_ofName hb) ht hr

/-- A request of a workspace, within the limit, comes to the same. -/
theorem handle_same (hg : g.settings = .ok s) (ht : s.slackToken ≠ "")
    (hr : r.isOf team = true) (hl : s.rateLimit < 0 ∨ st.commands < s.rateLimit)
    (hl' : s.rateLimit < 0 ∨ st'.commands < s.rateLimit)
    (h : st.contents.SameIn s.appDb team st'.contents) :
    (handle g d r st).1 = (handle g d r st').1 ∧
      (handle g d r st).2.contents.SameIn s.appDb team (handle g d r st').2.contents := by
  obtain ⟨hcommand, rfl⟩ : r.isCommand = true ∧ (Form.ofOctets r.body).value "team_id" = team := by
    simpa [Request.isOf] using hr
  rw [handle_admitted hcommand hg hl, handle_admitted hcommand hg hl']
  exact admitted_same ht h

/-- The readiness check leaves the contents the same for all. -/
theorem ready_apart (hg : g.settings = .ok s) :
    st.contents.SameIn s.appDb team (ready g d st).2.contents := by
  unfold ready
  rw [hg]
  simp only
  cases hb : Backend.ofName s.storeBackend s.appDb with
  | error e => exact .refl ..
  | ok b =>
    have hlist : st.contents.SameIn s.appDb team
        (d.faults.around (b.store false readinessPartition) .list (0, st.contents)).2.2 := by
      cases hf : d.faults 0 .list with
      | some f =>
        rw [Faults.around_of_some hf]
        exact .refl ..
      | none =>
        rw [Faults.around_of_none hf]
        exact Backend.store_apart (Backend.isAt_of_ofName hb) (.inr rfl)
    rcases hx : d.faults.around (b.store false readinessPartition) .list (0, st.contents)
      with ⟨(_ | _) | _, n, contents⟩
    all_goals
      rw [hx] at hlist
      simp only [hx]
      exact hlist

/-- **Any other request leaves the contents the same for a workspace.** -/
theorem handle_apart (hg : g.settings = .ok s) (hr : r.isOf team = false) :
    st.contents.SameIn s.appDb team (handle g d r st).2.contents := by
  cases h : r.isCommand with
  | false =>
    rcases (handle_other h).1 with hst | hst
    · rw [hst]
      exact .refl ..
    · rw [hst]
      exact ready_apart hg
  | true =>
    have hteam : team ≠ (Form.ofOctets r.body).value "team_id" := by
      rintro rfl
      simp [Request.isOf, h] at hr
    by_cases hl : s.rateLimit < 0 ∨ st.commands < s.rateLimit
    · rw [handle_admitted h hg hl]
      have hfate : Fate g s d r.arrival (Form.ofOctets r.body)
          { st with commands := st.commands + 1 } _ _ := fate_admitted
      exact hfate.apart hteam
    · rw [handle_limited h hg hl]
      exact .refl ..

end Requests

/-! ## 3. Runs -/

/-- The requests of a workspace, in their order. -/
def requestsOf (team : String) (requests : List (Disturbance × Request)) :
    List (Disturbance × Request) :=
  requests.filter (·.2.isOf team)

/-- The answers that the requests of a workspace got, of all answers to requests. -/
def answersTo (team : String) (requests : List (Disturbance × Request))
    (answers : List (Except Escape Response)) : List (Except Escape Response) :=
  ((requests.zip answers).filter (·.1.2.isOf team)).map (·.2)

/-- Whether requests stay within the rate limit. -/
def Within (s : Settings) (st : State) (requests : List (Disturbance × Request)) : Prop :=
  s.rateLimit < 0 ∨ st.commands + requests.countP (·.2.isCommand) ≤ s.rateLimit

section Runs

variable {g : Setting} {s : Settings} {d : Disturbance} {r : Request} {st st' : State}
  {team : String} {requests : List (Disturbance × Request)}

theorem requestsOf_cons_of_isOf (h : r.isOf team = true) :
    requestsOf team ((d, r) :: requests) = (d, r) :: requestsOf team requests :=
  List.filter_cons_of_pos h

theorem requestsOf_cons_of_not (h : r.isOf team = false) :
    requestsOf team ((d, r) :: requests) = requestsOf team requests :=
  List.filter_cons_of_neg (by simp [h])

theorem answersTo_cons {a : Except Escape Response} {answers : List (Except Escape Response)} :
    answersTo team ((d, r) :: requests) (a :: answers) =
      if r.isOf team then a :: answersTo team requests answers
      else answersTo team requests answers := by
  cases h : r.isOf team <;> simp [answersTo, h]

theorem Within.rest (h : Within s st ((d, r) :: requests)) :
    Within s (handle g d r st).2 requests := by
  have hone : (handle g d r st).2.commands = st.commands + [(d, r)].countP (·.2.isCommand) :=
    serve_commands [(d, r)] st
  have hsplit : ((d, r) :: requests).countP (·.2.isCommand) =
      [(d, r)].countP (·.2.isCommand) + requests.countP (·.2.isCommand) := by
    rw [← List.countP_append]
    rfl
  unfold Within at h ⊢
  omega

theorem Within.first (h : Within s st ((d, r) :: requests)) (hr : r.isCommand = true) :
    s.rateLimit < 0 ∨ st.commands < s.rateLimit := by
  have hcount : ((d, r) :: requests).countP (·.2.isCommand) =
      requests.countP (·.2.isCommand) + 1 := by
    rw [List.countP_cons, if_pos hr]
  unfold Within at h
  omega

/-- What is within the limit with other requests is so without them. -/
theorem Within.requestsOf (h : Within s st requests) : Within s st (requestsOf team requests) := by
  have hle : (Service.requestsOf team requests).countP (·.2.isCommand)
      ≤ requests.countP (·.2.isCommand) := List.filter_sublist.countP_le
  unfold Within at h ⊢
  omega

/-- **A run comes to the same for a workspace** as the run of its own requests alone.  The
induction is on the requests: one of the workspace is answered alike in both runs, and any other
one leaves the contents the same for it. -/
theorem serve_same (hg : g.settings = .ok s) (ht : s.slackToken ≠ "")
    (hl : Within s st requests) (hl' : Within s st' (requestsOf team requests))
    (h : st.contents.SameIn s.appDb team st'.contents) :
    answersTo team requests (serve g requests st).1
        = (serve g (requestsOf team requests) st').1 ∧
      (serve g requests st).2.contents.SameIn s.appDb team
        (serve g (requestsOf team requests) st').2.contents := by
  induction requests generalizing st st' with
  | nil => exact ⟨rfl, h⟩
  | cons x requests ih =>
    obtain ⟨d, r⟩ := x
    have hserve : serve g ((d, r) :: requests) st =
        ((handle g d r st).1 :: (serve g requests (handle g d r st).2).1,
          (serve g requests (handle g d r st).2).2) := rfl
    rw [hserve, answersTo_cons]
    cases hr : r.isOf team with
    | false =>
      -- The request is left out, and leaves the contents the same.
      rw [requestsOf_cons_of_not hr] at hl' ⊢
      exact ih hl.rest hl' ((handle_apart hg hr).symm.trans h)
    | true =>
      have hcommand : r.isCommand = true := (Bool.and_eq_true_iff.mp hr).1
      rw [requestsOf_cons_of_isOf hr] at hl' ⊢
      obtain ⟨hanswer, hsame⟩ :=
        handle_same (d := d) hg ht hr (hl.first hcommand) (hl'.first hcommand) h
      obtain ⟨hanswers, hrest⟩ := ih hl.rest hl'.rest hsame
      refine ⟨?_, hrest⟩
      rw [hanswers, hanswer]
      rfl

end Runs

/-- **Workspaces do not influence each other.**  Let the token be fixed and the requests stay
within the rate limit; whatever befalls them, on every backend.  Then the requests of a
workspace are answered as they would be without all the others, and its ledger and its rows
are afterwards what they would be.  So it does not matter where they stand among the others:
all requests with the same ones of this workspace come to the same for it. -/
theorem workspaces_apart {g : Setting} {s : Settings} (hg : g.settings = .ok s)
    (ht : s.slackToken ≠ "") (st : State) {requests : List (Disturbance × Request)}
    (hl : Within s st requests) (team : String) :
    let run := serve g requests st
    let alone := serve g (requestsOf team requests) st
    (answersTo team requests run.1 = alone.1 ∧
      run.2.contents.SameIn s.appDb team alone.2.contents) ∧
      ∀ others, Within s st others → requestsOf team others = requestsOf team requests →
        answersTo team others (serve g others st).1 = answersTo team requests run.1 ∧
          (serve g others st).2.contents.SameIn s.appDb team run.2.contents := by
  intro run alone
  have hsame : answersTo team requests run.1 = alone.1 ∧
      run.2.contents.SameIn s.appDb team alone.2.contents :=
    serve_same hg ht hl hl.requestsOf (.refl ..)
  refine ⟨hsame, fun others ho heq => ?_⟩
  have hothers : Within s st (requestsOf team others) := ho.requestsOf
  obtain ⟨hanswers, hcontents⟩ := serve_same hg ht ho hothers (.refl ..)
  rw [heq] at hanswers hcontents
  exact ⟨hanswers.trans hsame.1.symm, hcontents.trans hsame.2.symm⟩

def fixedSettings : Settings :=
  { Settings.default with slackToken := "x", storeBackend := "memory" }

def commandOf (team text : String) : Disturbance × Request :=
  (.none, .make "POST" "/slack" (Utf8.encode ("token=x&team_id=" ++ team ++ "&text=" ++ text)) 0)

/-- Two workspaces save a group under one name, and one of them deletes it. -/
theorem workspaces_apart_lunch :
    let g : Setting := ⟨.ok fixedSettings, List.reverse⟩
    let st : State := .init [] ⟨[], []⟩
    let mine := [commandOf "T1" "/save+lunch+a+b", commandOf "T1" "lunch"]
    let all := [commandOf "T1" "/save+lunch+a+b", commandOf "T2" "/save+lunch+c+d",
      commandOf "T2" "/delete+lunch", commandOf "T1" "lunch"]
    requestsOf "T1" all = mine ∧ Within fixedSettings st all ∧
      answersTo "T1" all (serve g all st).1 = (serve g mine st).1 ∧
      (serve g all st).2.contents.SameIn fixedSettings.appDb "T1" (serve g mine st).2.contents := by
  intro g st mine all
  have hmine : requestsOf "T1" all = mine := by
    have h1 : (commandOf "T1" "/save+lunch+a+b").2.isOf "T1" = true := by decide +kernel
    have h2 : (commandOf "T2" "/save+lunch+c+d").2.isOf "T1" = false := by decide +kernel
    have h3 : (commandOf "T2" "/delete+lunch").2.isOf "T1" = false := by decide +kernel
    have h4 : (commandOf "T1" "lunch").2.isOf "T1" = true := by decide +kernel
    simp [requestsOf, all, mine, h1, h2, h3, h4]
  have hwithin : Within fixedSettings st all := .inr (by decide +kernel)
  obtain ⟨⟨hanswers, hcontents⟩, -⟩ :=
    workspaces_apart (g := g) (s := fixedSettings) rfl (by decide) st hwithin "T1"
  rw [hmine] at hanswers hcontents
  exact ⟨hmine, hwithin, hanswers, hcontents⟩

end Tombola.Service
