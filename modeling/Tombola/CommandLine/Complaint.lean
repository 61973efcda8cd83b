import Tombola.CommandLine.Options
import Tombola.Text.Quoted
/-!
# Commands of the command line, and complaints about arguments

There are two commands: `run` carries out one command on the groups, `check-token` looks the
expected token up.  Either has a page of help, and so has the choice between them, which tells of
each command what its help says up to the first full stop.  Arguments that make no sense lead to a
complaint.
-/

namespace Tombola.CommandLine

/-! ## 1. Commands -/

/-- The commands. -/
inductive Subcommand where
  | run
  | checkToken
  deriving DecidableEq, Repr

def Subcommand.all : List Subcommand := [.checkToken, .run]

def Subcommand.name : Subcommand → String
  | run => "run"
  | checkToken => "check-token"

def Subcommand.ofName? (s : String) : Option Subcommand := Subcommand.all.find? (·.name = s)

/-- What a page of help is about: one command, or the choice between them. -/
inductive Page where
  | choice
  | command (c : Subcommand)
  deriving DecidableEq, Repr

namespace Page

/-- The option that asks for help; every page has it. -/
def helpFlag : Flag := ⟨"--help", false⟩

/-- How the arguments of a page are read.  Before the name of a command, and in front of what
`run` is to carry out, the first word ends the options; options that `run` does not know are
words. -/
def rules : Page → Rules
  | choice => ⟨[⟨"--log-level", true⟩, helpFlag], false, false⟩
  | command .run => ⟨[⟨"--partition", true⟩, ⟨"--json", false⟩, helpFlag], true, false⟩
  | command .checkToken => ⟨[helpFlag], false, true⟩

def path : Page → String
  | choice => "cli"
  | command c => "cli " ++ c.name

/-- The line that tells how a page is used. -/
def usage (p : Page) : String :=
  "Usage: " ++ p.path ++ (match p with
    | choice => " [OPTIONS] COMMAND [ARGS]..."
    | command .run => " [OPTIONS] [ARGS]..."
    | command .checkToken => " [OPTIONS]") ++ "\n"

/-- The page.  Where a page lists commands, the help of each is cut behind its first full stop. -/
def text (p : Page) : String :=
  p.usage ++ "\n" ++ match p with
    | choice =>
      "  Randomizer CLI.\n\n"
        ++ "Options:\n"
        ++ "  --log-level TEXT  Override LOG_LEVEL.\n"
        ++ "  --help            Show this message and exit.\n\n"
        ++ "Commands:\n"
        ++ "  check-token  Resolve the configured Slack token once, without printing it.\n"
        ++ "  run          Run one randomizer command, e.g.\n"
    | command .run =>
      "  Run one randomizer command, e.g. `randomizer run -- /save lunch A B`.\n\n"
        ++ "Options:\n"
        ++ "  --partition TEXT  Store partition to use, like a Slack team ID.  [default:\n"
        ++ "                    local]\n"
        ++ "  --json            Print structured JSON output.\n"
        ++ "  --help            Show this message and exit.\n"
    | command .checkToken =>
      "  Resolve the configured Slack token once, without printing it.\n\n"
        ++ "Options:\n"
        ++ "  --help  Show this message and exit.\n"

end Page

/-! ## 2. Complaints -/

/-- What can be wrong with arguments. -/
inductive Complaint where
  | option (page : Page) (fault : OptionFault)
  | noCommand
  | unknownCommand (name : String)
  | extraWords (page : Page) (words : List String)
  deriving DecidableEq, Repr

/-- What may be meant. -/
def suggestion : List String → String
  | [] => ""
  | [c] => " Did you mean " ++ Text.quoted c ++ "?"
  | cs => " (Did you mean one of: " ++ ", ".intercalate (cs.map Text.quoted) ++ "?)"

def OptionFault.message : OptionFault → String
  | unknown name meant => "No such option " ++ Text.quoted name ++ "." ++ suggestion meant
  | needsValue name => "Option " ++ Text.quoted name ++ " requires an argument."
  | takesNoValue name => "Option " ++ Text.quoted name ++ " does not take a value."

namespace Complaint

def message : Complaint → String
  | option _ fault => fault.message
  | noCommand => "Missing command."
  | unknownCommand name =>
    "No such command " ++ Text.quoted name ++ "."
      ++ suggestion (Text.similar (Subcommand.all.map (·.name)) name)
  | extraWords _ words =>
    "Got unexpected extra " ++ (if words.length = 1 then "argument" else "arguments") ++ " ("
      ++ " ".intercalate words ++ ")"

/-- The page that a complaint points to, if any. -/
def page? : Complaint → Option Page
  | option page (.unknown _ _) => some page
  | option _ _ => none
  | noCommand => some .choice
  | unknownCommand _ => some .choice
  | extraWords page _ => some page

def text (c : Complaint) : String :=
  (match c.page? with
    | some p => p.usage ++ "Try '" ++ p.path ++ " --help' for help.\n\n"
    | none => "") ++ "Error: " ++ c.message ++ "\n"

end Complaint

end Tombola.CommandLine
