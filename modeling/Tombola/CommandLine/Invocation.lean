import Tombola.CommandLine.Complaint
import Tombola.Command.Perform
import Tombola.Groups.Backend
import Tombola.Settings.Basic
import Tombola.Text.Unstyled
import Tombola.Token.Provider
/-!
# Invocations

The program is called with arguments, does one thing and exits: with 0 when that was done,
with 1 when it failed, with 2 when the arguments made no sense.  What a table, the disk and the
secret server hold goes on from one invocation to the next; groups in memory do not.
-/

namespace Tombola.CommandLine

open Groups

/-! ## 1. What is around an invocation -/

/-- What does not change between invocations. -/
structure Setting where
  sources : Settings.Sources
  shuffle : Command.Shuffle
  /-- Sets the log up for a level by name. -/
  setLog : String → Except Failure Unit

/-- What goes on from one invocation to the next. -/
structure World where
  table : Table
  disk : Disk
  server : Vault.Server

/-- What the program writes, and the code with which it exits. -/
structure Output where
  code : Nat
  out : String
  err : String
  deriving DecidableEq, Repr

/-- How an invocation ends. -/
inductive Ending where
  | exited (o : Output)
  /-- The settings do not parse. -/
  | unreadable (faults : Settings.Faults)
  | failed (f : Failure)

def line (s : String) : String := Text.unstyled (s ++ "\n")

def Ending.done (out : String) : Ending := .exited ⟨0, out, ""⟩

def Ending.refused (c : Complaint) : Ending := .exited ⟨2, "", Text.unstyled c.text⟩

/-! ## 2. The commands -/

/-- What `run` is to do. -/
structure Job where
  partition : String
  json : Bool
  words : List String
  deriving DecidableEq, Repr

/-- The job that the arguments of `run` make. -/
def Job.ofScan (s : Scan) : Job :=
  ⟨(s.value? "--partition").getD "local", s.has "--json", s.words⟩

def replyJson (r : Command.Reply) : Json.Value :=
  .ofFields [("ok", .bool true), ("kind", .ofString r.kind.name),
    ("message", .ofString r.message), ("options", .ofStrings r.options)]

def errorJson (e : DrawError) : Json.Value :=
  .ofFields [("ok", .bool false), ("error", .ofString e.help), ("cause", .ofString e.cause)]

/-- What is written about a command that was carried out. -/
def report (json : Bool) : Except DrawError Command.Reply → Output
  | .ok r => ⟨0, line (if json then (replyJson r).write else r.message), ""⟩
  | .error e =>
    if json then ⟨1, line (errorJson e).write, ""⟩ else ⟨1, "", line e.help⟩

/-- Carries a job out.  Nobody is in a hurry. -/
def run (g : Setting) (s : Settings) (job : Job) (w : World) : Ending × World :=
  match Backend.ofName s.storeBackend s.appDb with
  | .error e => (.failed (.ours (.config e)), w)
  | .ok b =>
    match (Command.perform s.commandName g.shuffle job.words).run
        (b.store false job.partition) ⟨[], w.table, w.disk⟩ with
    | (some r, s') =>
      (.exited (report job.json r), { w with table := s'.table, disk := s'.disk })
    | (none, s') => (.done "", { w with table := s'.table, disk := s'.disk })

/-- What is written about a token that cannot be looked up. -/
def unavailable (e : DrawError) : Ending :=
  .exited ⟨1, "", line ("token unavailable: " ++ e.cause)⟩

/-- Looks the expected token up and tells its length. -/
def checkToken (s : Settings) (w : World) : Ending × World :=
  match Token.Provider.ofSettings s with
  | .error e => (unavailable (.config e), w)
  | .ok p =>
    let (token, keeper) := p.lookup 0 ⟨none, w.server⟩
    let w := { w with server := keeper.server }
    match token with
    | .ok t =>
      (.done (line ("source: " ++ p.source) ++ line ("length: " ++ toString t.length)), w)
    | .error (.ours e) => (unavailable e, w)
    | .error f => (.failed f, w)

/-! ## 3. From arguments to commands -/

/-- How an invocation went. -/
structure Outcome where
  /-- The level by which the log was set up. -/
  logLevel : Option String
  ending : Ending

/-- A command with its own arguments. -/
def perform (g : Setting) (c : Subcommand) (args : List String) (w : World) : Ending × World :=
  let page := Page.command c
  match page.rules.scan args with
  | .error fault => (.refused (.option page fault), w)
  | .ok scan =>
    if scan.has "--help" then (.done page.text, w)
    else match c with
      | .checkToken =>
        if scan.words ≠ [] then (.refused (.extraWords page scan.words), w)
        else match Settings.read g.sources with
          | .error faults => (.unreadable faults, w)
          | .ok s => checkToken s w
      | .run =>
        match Settings.read g.sources with
        | .error faults => (.unreadable faults, w)
        | .ok s => run g s (Job.ofScan scan) w

/-- The level of the log: the one that is asked for, unless that is empty, or else the one
of the settings. -/
def levelOf (g : Setting) (asked : Option String) : Except Settings.Faults String :=
  match asked with
  | some l => if l = "" then (Settings.read g.sources).map (·.logLevel) else .ok l
  | none => (Settings.read g.sources).map (·.logLevel)

/-- A command behind the setting up of the log. -/
def withLog (g : Setting) (asked : Option String) (c : Subcommand) (args : List String)
    (w : World) : Outcome × World :=
  match levelOf g asked with
  | .error faults => (⟨none, .unreadable faults⟩, w)
  | .ok level =>
    match g.setLog level with
    | .error f => (⟨some level, .failed f⟩, w)
    | .ok () =>
      let (ending, w) := perform g c args w
      (⟨some level, ending⟩, w)

/-- What becomes of words that do not begin with a command.  They are read for options once
more, for two hyphens may stand before these. -/
def withoutCommand (words : List String) : Ending :=
  match Page.choice.rules.scan words with
  | .error fault => .refused (.option .choice fault)
  | .ok scan =>
    if scan.has "--help" then .done Page.choice.text
    else .refused (.unknownCommand (words.headD ""))

def invoke (g : Setting) (args : List String) (w : World) : Outcome × World :=
  if args = [] then (⟨none, .exited ⟨2, "", Page.choice.text⟩⟩, w)
  else match Page.choice.rules.scan args with
    | .error fault => (⟨none, .refused (.option .choice fault)⟩, w)
    | .ok scan =>
      if scan.has "--help" then (⟨none, .done Page.choice.text⟩, w)
      else match scan.words with
        | [] => (⟨none, .refused .noCommand⟩, w)
        | name :: rest =>
          match Subcommand.ofName? name with
          | none => (⟨none, withoutCommand (name :: rest)⟩, w)
          | some c => withLog g (scan.value? "--log-level") c rest w

def invokeAll (g : Setting) : List (List String) → World → List Outcome × World
  | [], w => ([], w)
  | args :: rest, w =>
    let (o, w) := invoke g args w
    let (os, w) := invokeAll g rest w
    (o :: os, w)

end Tombola.CommandLine
