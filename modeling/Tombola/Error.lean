import Tombola.Json.Reader
import Tombola.Host.Label
/-!
# Errors

A `DrawError` is an error of this program.  It has two texts that do not depend on each
other: the *cause*, for the log, and the *help*, which may be shown to the user who gave the
command.  A `Failure` is whatever a store or a secret server may fail with: a `DrawError`
or an ordinary error, which has only a text for the log.

Main statements: `DrawError.help_store`, the help of a store error is the same whatever went
wrong; `ok_of_toOption` and `error_of_toOption`, which read a result off its value.
-/

namespace Tombola

/-- The help where nothing better can be said. -/
def defaultHelp : String :=
  "Whoops, something went wrong on my end. Please try again later."

/-! ## 1. Errors of this program -/

/-- A command that is well formed and cannot be carried out as written. -/
inductive UsageFault where
  /-- The name "help" was given to a group. -/
  | reservedName
  /-- A group's name begins with a mark that flags and filters begin with. -/
  | reservedMark (name : String) (mark : Char)
  /-- The flag "/n" stands without a positive number. -/
  | badCount
  /-- Fewer than two options are left to draw from. -/
  | tooFewToDraw (found : Nat)
  /-- More winners are asked for than there are options. -/
  | tooManyWinners (wanted found : Nat)
  | notFound (name : String)
  /-- A group would have fewer than two different options. -/
  | tooFewToSave (name : String) (found : Nat)
  /-- Any other, with its own texts. -/
  | other (cause help : String)
  deriving DecidableEq, Repr

namespace UsageFault

def cause : UsageFault → String
  | reservedName => "group name \"help\" is reserved"
  | reservedMark name _ =>
    "group name " ++ Text.quoted name ++ " starts with a reserved character"
  | badCount => "\"/n\" needs a positive number of options to pick"
  | tooFewToDraw found => "selection needs at least two options, got " ++ toString found
  | tooManyWinners wanted found =>
    "asked to pick " ++ toString wanted ++ " of " ++ toString found ++ " options"
  | notFound name => "group " ++ Text.quoted name ++ " not found"
  | tooFewToSave name found =>
    "group " ++ Text.quoted name ++ " needs at least two options, got " ++ toString found
  | other cause _ => cause

def help : UsageFault → String
  | reservedName => "Whoops, \"help\" is reserved, so you can't use it as a group name."
  | reservedMark _ mark =>
    "Whoops, group names can't start with \"" ++ String.singleton mark
      ++ "\", since that looks like a flag or an option filter."
  | badCount => "Whoops, \"/n\" needs a number of options to pick, like `/n 2`."
  | tooFewToDraw _ => "Whoops, I need at least two options to randomize!"
  | tooManyWinners wanted found =>
    "Whoops, I can't pick " ++ toString wanted ++ " options from a list of "
      ++ toString found ++ "!"
  | notFound name => "Whoops, I couldn't find a group named \"" ++ name ++ "\"."
  | tooFewToSave _ _ => "Whoops, a group needs at least two options so I can pick from it!"
  | other _ help => help

/-- A fault with the given cause; without a help of its own the cause is the help. -/
def plain (cause : String) (help : Option String) : UsageFault :=
  match help with
  | some h => if h = "" then .other cause ("Whoops, " ++ cause ++ ".") else .other cause h
  | none => .other cause ("Whoops, " ++ cause ++ ".")

end UsageFault

/-- Why the expected token could not be read from the secret server. -/
inductive SecretFault where
  /-- The request failed on its way. -/
  | unreachable (name : String) (detail : String)
  /-- The server answered with an error status. -/
  | refused (name : String) (status : Int)
  | noField (name field : String)
  /-- The field is not a text, or is empty. -/
  | notText (name field : String)
  /-- Any other, with its own texts. -/
  | other (cause help : String)
  deriving DecidableEq, Repr

def SecretFault.cause : SecretFault → String
  | unreachable name detail =>
    "loading secret " ++ Text.quoted name ++ " from Vault: " ++ detail
  | refused name status =>
    "loading secret " ++ Text.quoted name ++ " from Vault: HTTP " ++ toString status
  | noField name field =>
    "secret " ++ Text.quoted name ++ " has no " ++ Text.quoted field ++ " field in Vault"
  | notText name field =>
    "secret " ++ Text.quoted name ++ " field " ++ Text.quoted field ++ " is not a string"
  | other cause _ => cause

/-- What is wrong with the configuration. -/
inductive ConfigFault where
  /-- A token may not be kept for no time at all. -/
  | nonPositiveTtl (shown : String)
  /-- Neither a token nor the name of one is configured. -/
  | noToken
  | unknownBackend (name : String)
  /-- Any other, with its own texts. -/
  | other (cause help : String)
  deriving DecidableEq, Repr

def ConfigFault.cause : ConfigFault → String
  | nonPositiveTtl shown => "token TTL must be positive, got " ++ shown
  | noToken => "missing SLACK_TOKEN or SLACK_TOKEN_SECRET_NAME in environment"
  | unknownBackend name => "unknown STORE_BACKEND: " ++ Text.quoted name
  | other cause _ => cause

/-- An error of this program. -/
inductive DrawError where
  /-- An error of no particular kind. -/
  | general (cause help : String)
  /-- A flag that needs a group's name stands alone. -/
  | missingOperand (flag : String)
  | usage (fault : UsageFault)
  | store (cause : String)
  | secret (fault : SecretFault)
  | config (fault : ConfigFault)
  deriving DecidableEq, Repr

namespace DrawError

def cause : DrawError → String
  | general cause _ => cause
  | missingOperand flag => "\"" ++ flag ++ "\" flag requires an argument"
  | usage fault => fault.cause
  | store cause => cause
  | secret fault => fault.cause
  | config fault => fault.cause

def help : DrawError → String
  | general _ help => help
  | missingOperand flag => "Whoops, \"" ++ flag ++ "\" requires an argument!"
  | usage fault => fault.help
  | store _ => "Whoops, I had trouble getting to your saved groups. Please try again."
  | secret (.other _ help) => help
  | secret _ => defaultHelp
  | config (.other _ help) => help
  | config _ => defaultHelp

/-- The flag that stands alone, if that is the error. -/
def flag? : DrawError → Option String
  | missingOperand flag => some flag
  | _ => none

/-- **The user is not told why the store failed.** -/
theorem help_store (c c' : String) : (store c).help = (store c').help := rfl

end DrawError

/-! ## 2. Failures of what this program depends on -/

/-- How a request to the secret server can fail on its way. -/
inductive TransportFault where
  | connectError
  | connectTimeout
  | readTimeout
  | readError
  | protocolError
  | poolTimeout
  | unsupportedProtocol
  | tooManyRedirects
  deriving DecidableEq, Repr

/-- An error that has a text and nothing else to tell. -/
inductive PlainFault where
  | any
  | system
  | value
  | type
  | runtime
  | timeout
  | overflow
  deriving DecidableEq, Repr

/-- What a store, a secret server or the machine below may fail with. -/
inductive Failure where
  /-- An error of this program, which passes through unchanged. -/
  | ours (e : DrawError)
  /-- An error of a plain kind. -/
  | plain (kind : PlainFault) (text : String)
  | missingKey (key : String)
  | transport (kind : TransportFault) (text : String)
  | badAddress (text : String)
  /-- A host name whose ASCII form stands for nothing that is allowed. -/
  | badHost (fault : Host.Fault)
  /-- A text has no form in the code it should be sent in. -/
  | unencodable (u : Utf8.Unencodable)
  /-- A stored list of options, or a secret, is not JSON or is nested too deep. -/
  | malformed (whole : Text) (fault : Json.Fault)
  /-- A stored list of options is a value without items. -/
  | itemless (kind : Json.Itemless)
  | database (text : String)
  | notADatabase
  /-- A directory cannot be made in this part of the machine. -/
  | notPermitted (path : String)
  /-- A directory cannot be made in one that is not there. -/
  | notThere (path : String)
  /-- A directory cannot be made because a file is there. -/
  | fileExists (path : String)
  /-- A directory cannot be made below a file. -/
  | notADirectory (path : String)
  | nameTooLong (path : String)
  deriving Repr

namespace Failure

def text : Failure → String
  | ours e => e.cause
  | plain _ t => t
  | missingKey key => Text.quoted key
  | transport _ t => t
  | badAddress t => t
  | badHost fault => fault.message
  | unencodable u => u.message
  | malformed whole fault => fault.message whole
  | itemless kind => "'" ++ kind.name ++ "' object is not iterable"
  | database t => t
  | notADatabase => "file is not a database"
  | notPermitted path => "[Errno 1] Operation not permitted: " ++ Text.quoted path
  | notThere path => "[Errno 2] No such file or directory: " ++ Text.quoted path
  | fileExists path => "[Errno 17] File exists: " ++ Text.quoted path
  | notADirectory path => "[Errno 20] Not a directory: " ++ Text.quoted path
  | nameTooLong path => "[Errno 36] File name too long: " ++ Text.quoted path

/-- Whether the failure is an error of this program. -/
def isOurs : Failure → Bool
  | ours _ => true
  | _ => false

/-- Whether the failure counts as one of the transport. -/
def isTransport : Failure → Bool
  | transport _ _ => true
  | _ => false

/-- Whether the failure is a time limit that ran out. -/
def isTimeout : Failure → Bool
  | plain .timeout _ => true
  | _ => false

end Failure

/-! ## 3. Results -/

theorem ok_of_toOption {ε α : Type} {x : Except ε α} {v : α} (h : x.toOption = some v) :
    x = .ok v := by
  cases x with
  | error f => cases h
  | ok w =>
    cases h
    rfl

theorem error_of_toOption {ε α : Type} {x : Except ε α} (h : x.toOption = none) :
    ∃ f, x = .error f := by
  cases x with
  | error f => exact ⟨f, rfl⟩
  | ok w => cases h

end Tombola
