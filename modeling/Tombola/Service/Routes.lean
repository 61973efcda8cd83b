import Tombola.Service.Webhook
import Tombola.Service.Place
/-!
# Routes

The service answers commands, tells that it runs and whether its store answers, and describes
itself.  A method that a place does not take is refused, and so is a path that leads to none.
-/

namespace Tombola.Service

open Groups

/-- The partition that the readiness check lists. -/
def readinessPartition : String := "__readyz__"

def ready (g : Setting) (d : Disturbance) (st : State) : Bool × State :=
  match g.settings with
  | .error _ => (false, st)
  | .ok s =>
    match Backend.ofName s.storeBackend s.appDb with
    | .error _ => (false, st)
    | .ok b =>
      match d.faults.around (b.store false readinessPartition) .list (0, st.contents) with
      | (.replied (.ok _), (_, contents)) => (true, { st with contents := contents })
      | (_, (_, contents)) => (false, { st with contents := contents })

def readiness (ok : Bool) : Response :=
  if ok then .json 200 (.ofFields [("ok", .bool true), ("store", .ofString "ok")])
  else .json 503 (.ofFields [("ok", .bool false), ("store", .ofString "unavailable")])

/-- A response about a path or a method; a request for the head alone gets no body. -/
def refusal (method : String) (status : Nat) (detail : String) : Response :=
  if method = "HEAD" then .text status "" else .json status (texts [("detail", detail)])

/-- The description of one method of one place. -/
def described (place : Place) (method group summary : String) (more : List (String × String))
    (id : String) : String × Json.Value :=
  let answer : Json.Value := .ofFields [("description", .ofString "Successful Response"),
    ("content", .ofFields [("application/json", .ofFields [("schema", .ofFields [])])])]
  (place.path, .ofFields [(method, .ofFields
    ([("tags", .ofStrings [group]), ("summary", .ofString summary)]
      ++ more.map (fun f => (f.1, .ofString f.2))
      ++ [("operationId", .ofString id), ("responses", .ofFields [("200", answer)])]))])

def selfDescription : Json.Value :=
  .ofFields [("openapi", .ofString "3.1.0"),
    ("info", texts [("title", "Randomizer"), ("version", "0.1.0")]),
    ("paths", .ofFields [
      described .health "get" "health" "Healthz" [] "healthz_healthz_get",
      described .readiness "get" "health" "Readyz"
        [("description", "Report whether the group store answers a listing.")] "readyz_readyz_get",
      described .command "post" "slack" "Slash Command"
        [("description", "Handle a Slack slash command invocation.")]
        "slash_command_slack_post"])]

/-- Answers a request that a place takes.  What the pages for readers show is no matter of
the service's. -/
def answer (g : Setting) (d : Disturbance) (r : Request) (st : State) :
    Place → Except Escape Response × State
  | .command => command g d r st
  | .health => (.ok (.json 200 (.ofFields [("ok", .bool true)])), st)
  | .readiness =>
    let (ok, st) := ready g d st
    (.ok (readiness ok), st)
  | .description =>
    (.ok (if r.method = "HEAD" then .text 200 "" else .json 200 selfDescription), st)
  | .page | .otherPage | .returnPage => (.ok (.text 200 ""), st)

def handle (g : Setting) (d : Disturbance) (r : Request) (st : State) :
    Except Escape Response × State :=
  match Place.pathOf r.target with
  | .error fault => (.error (.failure (.badAddress fault.message)), st)
  | .ok path =>
    match Place.of? path with
    | none => (.ok (refusal r.method 404 "Not Found"), st)
    | some place =>
      if place.takes r.method then answer g d r st place
      else (.ok (refusal r.method 405 "Method Not Allowed"), st)

def serve (g : Setting) : List (Disturbance × Request) → State →
    List (Except Escape Response) × State
  | [], st => ([], st)
  | (d, r) :: rest, st =>
    let (a, st) := handle g d r st
    let (as, st) := serve g rest st
    (a :: as, st)

end Tombola.Service
