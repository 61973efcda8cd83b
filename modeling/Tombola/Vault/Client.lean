import Tombola.Error
import Tombola.Url
/-!
# Reading a secret

The secret server keeps secrets under names, each a JSON object of fields.  The client asks
for one field of one secret and wants a text that is not empty.  What it sends depends on
its configuration and the name only; what it makes of the reply is `Client.judge`.

Main statements: `judge_refused`, an error status is refused whatever the body;
`fieldOf?_eq_some_iff`, where a field stands in a reply.
-/

namespace Tombola.Vault

open Json

/-! ## 1. The client and its requests -/

/-- Where secrets are read, and with what. -/
structure Client where
  /-- The address, without slashes at its end. -/
  address : String
  /-- The place of the secrets, without slashes at its ends. -/
  mount : String
  field : String
  token : String
  deriving DecidableEq, Repr

def isSlash (c : Char) : Bool := c == '/'

namespace Client

/-- A client; slashes at the end of the address and around the mount are dropped. -/
def create (address token mount field : String) : Client :=
  ⟨String.ofList (Text.trimEnd isSlash address.toList), Text.trimmed isSlash mount, field, token⟩

def secretUrl (c : Client) (name : String) : String :=
  c.address ++ "/v1/" ++ c.mount ++ "/data/" ++ Text.trimmed isSlash name

/-- What the server sees of a request. -/
structure Request where
  path : String
  host : String
  token : String
  /-- The address as it was sent, if it names no server. -/
  serverless : Option String
  deriving DecidableEq, Repr

/-- The request for a secret, unless the address or the client's token cannot be sent. -/
def request (c : Client) (name : String) : Except Failure Request :=
  match Url.parse (c.secretUrl name) with
  | .error fault => .error (.badAddress fault.message)
  | .ok url =>
    match Utf8.notAscii? (Text.ofString c.token) with
    | some u => .error (.unencodable u)
    | none =>
      if url.isAbsolute then
        match url.shownHost with
        | .error fault => .error (.badHost fault)
        | .ok host =>
          match Utf8.notAscii? (Text.ofString url.authority) with
          | some u => .error (.unencodable u)
          | none => .ok ⟨url.decodedPath, host, c.token, none⟩
      else
        let url := url.rooted
        .ok ⟨url.decodedPath, url.host, c.token, some url.rootedText⟩

end Client

/-! ## 2. Replies -/

/-- What comes back from the server. -/
inductive Exchange where
  /-- A reply with a status and a body. -/
  | reply (status : Int) (body : List UInt8)
  | raised (f : Failure)
  deriving Repr

/-- The value of a field of the secret in a reply. -/
def fieldOf? (field : String) (v : Value) : Option Value :=
  (v.field? (Text.ofString "data")).bind fun outer =>
    (outer.field? (Text.ofString "data")).bind fun inner => inner.field? (Text.ofString field)

/-- **Where a field stands:** in the object under `data` in the object under `data`. -/
theorem fieldOf?_eq_some_iff {field : String} {v w : Value} :
    fieldOf? field v = some w ↔
      ∃ outer inner, v.field? (Text.ofString "data") = some outer ∧
        outer.field? (Text.ofString "data") = some inner ∧
        inner.field? (Text.ofString field) = some w := by
  simp [fieldOf?, Option.bind_eq_some_iff]

namespace Client

/-- How deep the body of a reply may be nested. -/
def maxDepth : Nat := 980

/-- The secret in a reply.  A body that is nested too deep is no fault of the secret's. -/
def secretIn (c : Client) (name : String) (body : List UInt8) : Except Failure Text :=
  let missing : Failure := .ours (.secret (.noField name c.field))
  match Encoding.read? body with
  | none => .error missing
  | some t =>
    match readWithin maxDepth t with
    | .error (.depth nest) => .error (.malformed t (.depth nest))
    | .error _ => .error missing
    | .ok v =>
      match fieldOf? c.field v with
      | none => .error missing
      | some (.str (t :: ts)) => .ok (t :: ts)
      | some _ => .error (.ours (.secret (.notText name c.field)))

/-- What the client makes of what came back. -/
def judge (c : Client) (name : String) (serverless : Option String) :
    Exchange → Except Failure Text
  | .raised f =>
    if f.isTransport then .error (.ours (.secret (.unreachable name f.text))) else .error f
  | .reply status body =>
    match serverless with
    | some address =>
      .error (.plain .value ("unknown url type: " ++ Text.quoted address))
    | none =>
      if 400 ≤ status then .error (.ours (.secret (.refused name status)))
      else c.secretIn name body

/-- An error status is refused whatever the body. -/
theorem judge_refused {c : Client} {name : String} {status : Int} (body : List UInt8)
    (h : 400 ≤ status) :
    c.judge name none (.reply status body) = .error (.ours (.secret (.refused name status))) := by
  simp [judge, h]

end Client

end Tombola.Vault
