import Tombola.Vault.Client
/-!
# A scripted secret server

A server whose replies are known in advance: each request gets the next one, and the last
one repeats.  A server without a script fails.

Main statement: `read_asked`, reading a secret makes at most one request.
-/

namespace Tombola.Vault

/-- A scripted server and the requests it has seen. -/
structure Server where
  script : List Exchange
  seen : List Client.Request

namespace Server

def init (script : List Exchange) : Server := ⟨script, []⟩

/-- The exchange for the next request. -/
def next (s : Server) : Exchange :=
  match s.script[s.seen.length]? with
  | some e => e
  | none => s.script.getLast?.getD (.reply 500 [])

/-- How many requests the server has seen. -/
def asked (s : Server) : Nat := s.seen.length

/-- Notes a request. -/
def note (r : Client.Request) (s : Server) : Server := { s with seen := s.seen ++ [r] }

end Server

def Client.read (c : Client) (name : String) (s : Server) : Except Failure Text × Server :=
  match c.request name with
  | .error f => (.error f, s)
  | .ok r => (c.judge name r.serverless s.next, s.note r)

/-- **One read makes at most one request.**  It makes one exactly if it can be sent. -/
theorem Client.read_asked (c : Client) (name : String) (s : Server) :
    (c.read name s).2.asked = s.asked + (if (c.request name).toOption.isSome then 1 else 0) := by
  unfold Client.read
  cases c.request name <;> simp [Server.asked, Server.note, Except.toOption]

end Tombola.Vault
