import Tombola.Service.Message
import Tombola.Form
import Tombola.Token.Provider
import Tombola.Command.Perform
import Tombola.Groups.Backend
/-!
# The webhook

A command comes as a form.  Before it is carried out it passes several gates, in this order:
the rate limit, the settings, the answer to certificate checks, the expected token, the token
of the form, and the store.  One deadline covers the lookup of the token and the command.

Main statements: `gate_ssl`, a certificate check is answered before the token is looked up;
`judge_empty`, a form without a token is refused.
-/

namespace Tombola.Service

open Groups Command

/-! ## 1. What is around a request -/

/-- What does not change between requests. -/
structure Setting where
  /-- The settings, or what is wrong with them. -/
  settings : Except Settings.Faults Settings
  shuffle : Shuffle

/-- What requests change. -/
structure State where
  commands : Nat
  /-- What the provider keeps, and the secret server. -/
  keeper : Token.Provider.Memory
  contents : Backend.Contents

def State.init (script : List Vault.Exchange) (disk : Disk) : State :=
  ⟨0, ⟨none, .init script⟩, .empty disk⟩

/-- What may befall a part of the service during a request. -/
inductive Mishap where
  | crash (f : Failure)
  | hang

/-- What befalls the parts of the service during one request. -/
structure Disturbance where
  provider : Option Mishap
  handler : Operation → Option Mishap
  faults : Faults

/-- Nothing happens. -/
def Disturbance.none : Disturbance := ⟨Option.none, fun _ => Option.none, Faults.none⟩

/-! ## 2. The gates -/

/-- The help when time runs out. -/
def timeoutHelp : String := "Whoops, that took longer than I expected. Please try again."

/-- The refusal of a command beyond the rate limit, if this is one.  The `n`-th command is
refused when `n` exceeds the limit; a negative limit is none. -/
def overLimit? (limit : Int) (n : Nat) : Option Response :=
  if 0 ≤ limit ∧ limit < n then
    some (.json 429 (texts [("error", "rate limit exceeded"),
      ("detail", toString limit ++ " per 1 minute")]))
  else Option.none

/-- The token that is expected now.  The deadline of the command does not reach this lookup: a
time that is up is only noticed where something waits, and the exchanges of a script are there at
once.  A provider that is made to hang does wait. -/
def expected (s : Settings) (d : Disturbance) (now : Float) (m : Token.Provider.Memory) :
    Except Failure Text × Token.Provider.Memory :=
  match d.provider with
  | some (.crash f) => (.error f, m)
  | some .hang => (.error (.plain .timeout ""), m)
  | Option.none =>
    match Token.Provider.ofSettings s with
    | .error e => (.error (.ours (.config e)), m)
    | .ok p => p.lookup now m

/-- What is made of a token that cannot be looked up. -/
def unavailable (f : Failure) : Except Escape Response :=
  let body := texts [("error", "token_unavailable")]
  if f.isTimeout then .ok (.json 503 body)
  else if f.isOurs then .ok (.json 500 body)
  else .error (.failure f)

/-- Whether the token of a form is the expected one.  The octets are compared. -/
def judge (given : String) (expected : Text) : Except Failure Bool :=
  if given = "" then .ok false
  else match Utf8.encodeText expected with
    | .error u => .error (.unencodable u)
    | .ok octets => .ok (Utf8.encode given = octets)

/-- A form without a token is refused whatever is expected. -/
theorem judge_empty (t : Text) : judge "" t = .ok false := by simp [judge]

/-! ## 3. The command -/

/-- What comes of a command: a reply, an error, or nothing in time. -/
inductive Result where
  | replied (r : Reply)
  | failed (f : Failure)
  | late

/-- Whether a deadline is over when it begins: only a positive time is a time. -/
def isOver (seconds : Float) : Bool := ! (0 < seconds)

/-- Carries out a command on the store of one partition. -/
def carryOut (name : String) (shuffle : Shuffle) (d : Disturbance) (store : Store Backend.Contents)
    (words : List String) (s : Backend.Contents) : Result × Backend.Contents :=
  match Command.Request.ofWords words with
  | .error e => (.failed (.ours e), s)
  | .ok r =>
    match d.handler r.operation with
    | some (.crash f) => (.failed f, s)
    | some .hang => (.late, s)
    | Option.none =>
      match (r.perform name shuffle).runWith d.faults store s with
      | (some (.ok reply), s') => (.replied reply, s')
      | (some (.error e), s') => (.failed (.ours e), s')
      | (Option.none, s') => (.late, s')

def reply (inChannel : Bool) (text : String) : Response :=
  .json 200 (texts [("response_type", if inChannel then "in_channel" else "ephemeral"),
    ("text", text)])

def Result.response : Result → Response
  | .replied r => reply r.inChannel r.message
  | .failed (.ours e) => reply false e.help
  | .failed f => reply false (if f.isTimeout then timeoutHelp else defaultHelp)
  | .late => reply false timeoutHelp

/-! ## 4. The whole -/

/-- A command with its settings and its form, behind the rate limit. -/
def admitted (g : Setting) (s : Settings) (d : Disturbance) (now : Float) (form : Form)
    (st : State) : Except Escape Response × State :=
  if form.value "ssl_check" = "1" then (.ok (.text 200 ""), st)
  else
    let (token, keeper) := expected s d now st.keeper
    let st := { st with keeper := keeper }
    match token with
    | .error f => (unavailable f, st)
    | .ok token =>
      match judge (form.value "token") token with
      | .error f => (.error (.failure f), st)
      | .ok false => (.ok (.json 403 (texts [("error", "invalid_token")])), st)
      | .ok true =>
        let given := form.value "command"
        let name := if given = "" then s.commandName else given
        match Backend.ofName s.storeBackend s.appDb with
        | .error e => (.error (.failure (.ours (.config e))), st)
        | .ok b =>
          let store := b.store (isOver s.commandTimeout) (form.value "team_id")
          let (result, contents) :=
            carryOut name g.shuffle d store (Text.words (form.value "text")) st.contents
          (.ok result.response, { st with contents := contents })

def command (g : Setting) (d : Disturbance) (r : Request) (st : State) :
    Except Escape Response × State :=
  let st := { st with commands := st.commands + 1 }
  match g.settings with
  | .error faults => (.error (.settings faults), st)
  | .ok s =>
    match overLimit? s.rateLimit st.commands with
    | some refusal => (.ok refusal, st)
    | Option.none => admitted g s d r.arrival (Form.ofOctets r.body) st

/-- A certificate check is answered before the token is looked up. -/
theorem gate_ssl {g : Setting} {s : Settings} {d : Disturbance} {now : Float} {form : Form}
    {st : State} (h : form.value "ssl_check" = "1") :
    admitted g s d now form st = (.ok (.text 200 ""), st) := by
  simp [admitted, h]

end Tombola.Service
