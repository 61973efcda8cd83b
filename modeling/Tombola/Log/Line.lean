import Tombola.Log.Event
import Tombola.Log.Pattern
import Tombola.Log.Level
/-!
# Log lines

Values can be bound to the log until they are cleared; every line carries them.  A line is
made in stages: the message with what is bound behind it, then what the log says itself, then
the masking of secrets, last of all so that nothing bound escapes it.

Not all calls on the log are `Record`s.  A call may come with an error to be shown, as the one for
a command that crashed does, or with a wish of its own for the stack; what these two add to a line
is left out here.  A wish for the stack that is bound is not.

Main statement: `get?_complete_of_sensitive`, no line shows a value bound under a sensitive name.
-/

namespace Tombola.Log

open Json

/-! ## 1. Messages -/

/-- A call on the log, with neither an error to be shown nor a wish of its own for the stack. -/
structure Record where
  logger : Text
  level : Level
  message : Text
  args : List Value

/-- The message of a call.  Without arguments it stands as it is. -/
def Record.text (r : Record) : Option Text :=
  if r.args.isEmpty then some r.message else fill r.message r.args

/-! ## 2. Lines -/

/-- What comes of a call on the log. -/
inductive Line where
  | event (e : Event)
  | console
  | silent

/-- Names that a call has of its own; nothing bound under them counts. -/
def ownNames : List Text := ["event", "_record", "_from_structlog"].map Text.ofString

/-- A message with what is bound behind it. -/
def withBound (message : Text) (bound : Fields) : Event :=
  (Text.ofString "event", .str message) :: bound.filter fun f => ! ownNames.contains f.1

/-- The event without the field of a name. -/
def dropField (k : Text) (e : Event) : Event := e.filter fun f => f.1 ≠ k

/-- Whether a value counts as said: it is neither null, false, zero nor empty. -/
def isSaid : Value → Bool
  | .null => false
  | .bool b => b
  | .int n => n != 0
  | .float x => x != 0
  | .str t => ! t.isEmpty
  | .arr vs => ! vs.isEmpty
  | .obj fs => ! fs.isEmpty

/-- What a line says of the moment in which it is made. -/
structure Moment where
  time : Value
  /-- The calls that the program is in. -/
  stack : Text

/-- The stack in place of the wish for it. -/
def showStack (stack : Text) (e : Event) : Event :=
  let wish := (Fields.get? (Text.ofString "stack_info") e).getD .null
  let e := dropField (Text.ofString "stack_info") e
  if isSaid wish then Fields.insert (Text.ofString "stack") (.str stack) e else e

/-- The event of a call: the message and what is bound, then level, name, time and stack, then
the masking. -/
def complete (m : Moment) (r : Record) (message : Text) (bound : Fields) : Event :=
  let put (name : String) (v : Value) (e : Event) : Event := Fields.insert (Text.ofString name) v e
  let named := if r.logger = [] then Text.ofString "root" else r.logger
  let e := withBound message bound
  let e := put "level" (.ofString r.level.shown) e
  let e := put "logger" (.str named) e
  let e := put "timestamp" m.time e
  redact (showStack m.stack e)

/-- Whether a call makes a line. -/
def Config.admits (c : Config) (l : Level) : Bool := 0 < l && c.level ≤ l

/-- Whether a line for people can be made with what is bound.  The stack and the error that
it ends with have to be texts; the stack is made anew where that is asked for. -/
def isShowable (bound : Fields) : Bool :=
  let found (name : String) : Value := (Fields.get? (Text.ofString name) bound).getD .null
  let isText : Value → Bool
    | .null | .str _ => true
    | _ => false
  (isText (found "stack") || isSaid (found "stack_info")) && isText (found "exception")

/-- What comes of a call, with values bound. -/
def Record.line (c : Config) (m : Moment) (bound : Fields) (r : Record) : Line :=
  if ! c.admits r.level then .silent
  else match r.text with
    | none => .silent
    | some message =>
      if c.json then .event (complete m r message bound)
      else if isShowable bound then .console
      else .silent

/-! ## 3. Runs -/

/-- What can happen to the log. -/
inductive Step where
  | bind (fields : Fields)
  | clear
  | record (r : Record)

/-- What is bound after a step. -/
def Step.bound (fields : Fields) : Step → Fields
  | .bind fs => fs.foldl (fun acc f => Fields.insert f.1 f.2 acc) fields
  | .clear => []
  | .record _ => fields

/-- The lines of a run of steps, given the moments of the calls and what is bound before. -/
def linesAt (c : Config) : (Nat → Moment) → Fields → List Step → List Line
  | _, _, [] => []
  | moments, bound, .record r :: rest =>
    r.line c (moments 0) bound :: linesAt c (fun n => moments (n + 1)) bound rest
  | moments, bound, s :: rest => linesAt c moments (s.bound bound) rest

/-- The lines of a run with one time stamped on all of them, and no stack. -/
def lines (c : Config) (stamp : Value) (bound : Fields) (steps : List Step) : List Line :=
  linesAt c (fun _ => ⟨stamp, []⟩) bound steps

/-- The lines of a run from the beginning, with the log set up as asked for. -/
def emitted (level : String) (json : Option Bool) (environment : List (String × String))
    (moments : Nat → Moment) (steps : List Step) : Except Failure (List Line) :=
  (Config.make level json environment).map fun c => linesAt c moments [] steps

/-- No line shows a value bound under a sensitive name. -/
theorem get?_complete_of_sensitive {m : Moment} {r : Record} {message : Text}
    {bound : Fields} {k : Text} {v : Value} (hk : sensitiveNames.contains k = true)
    (hv : Fields.get? k (complete m r message bound) = some v) : v = mask :=
  get?_redact_of_sensitive _ hk hv

end Tombola.Log
