import Tombola.Json.Value
import Tombola.Settings.Basic
import Tombola.Error
/-!
# Requests and responses

A request has a method, a target, a body and the instant at which it arrives.  A response is
JSON or a text.  Instead of a response an error may escape from the service; the settings
that do not parse are one such error.
-/

namespace Tombola.Service

open Json

/-- A request. -/
structure Request where
  method : String
  /-- A path or a whole address. -/
  target : String
  body : List UInt8
  /-- The reading of the clock when the request arrives. -/
  arrival : Float

/-- A request.  Methods are written in capitals. -/
def Request.make (method target : String) (body : List UInt8) (arrival : Float) : Request :=
  ⟨Text.inCapitals method, target, body, arrival⟩

/-- A response. -/
inductive Response where
  | json (status : Nat) (body : Value)
  | text (status : Nat) (body : String)

def Response.status : Response → Nat
  | .json s _ => s
  | .text s _ => s

/-- An error that no response is made of. -/
inductive Escape where
  /-- The settings do not parse. -/
  | settings (faults : Settings.Faults)
  | failure (f : Failure)

def texts (fields : List (String × String)) : Value :=
  .ofFields (fields.map fun f => (f.1, .ofString f.2))

end Tombola.Service
