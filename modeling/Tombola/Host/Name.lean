import Tombola.Host.Label
import Tombola.Text.Blank
/-!
# Host names

A host name is a list of labels with full stops between, for which three other characters may
stand.  An empty label at the end stands for the root and is kept.
-/

namespace Tombola.Host

def isStop (c : Char) : Bool := c == '.' || c == '\u3002' || c == '\uFF0E' || c == '\uFF61'

/-- The labels of a name, and whether the root is named behind them. -/
def split (cs : List Char) : Except Fault (List (List Char) × Bool) :=
  let labels := Text.pieces isStop cs
  if labels = [[]] then .error .emptyName
  else if labels.getLast? = some [] then .ok (labels.dropLast, true)
  else .ok (labels, false)

/-- The greatest length of a name as it is sent, without the stop of the root. -/
def maxName : Nat := 253

def encode (cs : List Char) : Except Fault (List Char) := do
  let (labels, root) ← split cs
  let sent ← labels.mapM ascii
  let name := ['.'].intercalate (if root then sent ++ [[]] else sent)
  if (if root then maxName + 1 else maxName) < name.length then .error .longName else .ok name

/-- The host name that is written in ASCII. -/
def decode (cs : List Char) : Except Fault Text := do
  let (labels, root) ← split cs
  let labels ← labels.mapM labelOf
  pure ([CodePoint.char '.'].intercalate (if root then labels ++ [[]] else labels))

end Tombola.Host
