import Tombola.Error
/-!
# Replies

What a command that succeeded answers: its kind, a message and the options it is about.
Only what was drawn is shared with everyone in the channel.
-/

namespace Tombola.Command

/-- What a reply is about. -/
inductive ReplyKind where
  | help
  | selection
  | shuffled
  | listed
  | showed
  | saved
  | deleted
  deriving DecidableEq, Repr

namespace ReplyKind

def all : List ReplyKind := [.help, .selection, .shuffled, .listed, .showed, .saved, .deleted]

def name : ReplyKind → String
  | help => "help"
  | selection => "selection"
  | shuffled => "shuffled"
  | listed => "listed"
  | showed => "showed"
  | saved => "saved"
  | deleted => "deleted"

def ofName? (s : String) : Option ReplyKind := all.find? (·.name = s)

/-- Whether everyone in the channel sees the reply. -/
def inChannel : ReplyKind → Bool
  | selection | shuffled => true
  | _ => false

end ReplyKind

/-- A reply. -/
structure Reply where
  kind : ReplyKind
  message : String
  options : List String
  deriving DecidableEq, Repr

/-- Whether everyone in the channel sees the reply. -/
def Reply.inChannel (r : Reply) : Bool := r.kind.inChannel

def bullets (items : List String) : String :=
  "\n".intercalate (items.map ("• " ++ ·))

def helpText (name : String) : String :=
  "Hi there! I pick things at random so you don't have to.\n\n"
    ++ "*Randomize a list:*\n"
    ++ "• `" ++ name ++ " Alice Bob Carol` picks one option.\n"
    ++ "• `" ++ name ++ " /n 2 Alice Bob Carol` picks two.\n"
    ++ "• `" ++ name ++ " /all Alice Bob Carol` shuffles the whole list.\n\n"
    ++ "*Save groups for later:*\n"
    ++ "• `" ++ name ++ " /save lunch Tacos Pizza Salad` saves a group.\n"
    ++ "• `" ++ name ++ " lunch` picks from a saved group. Mix groups and options, "
    ++ "use `-Pizza` to leave an option out, or `+lunch` to add the word itself.\n"
    ++ "• `" ++ name ++ " /list` lists your groups, `" ++ name ++ " /show lunch` shows one, "
    ++ "and `" ++ name ++ " /delete lunch` removes it."

end Tombola.Command
