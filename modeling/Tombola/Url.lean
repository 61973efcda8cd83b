import Tombola.Text.Percent
import Tombola.Text.Digit
import Tombola.Text.Lowered
import Tombola.Command.Count
import Tombola.Host.Address
import Tombola.Host.Name
/-!
# Addresses

An address is split at the places that RFC 3986 names: a scheme before the first colon, an
authority behind two slashes, a path, a query behind a question mark and a fragment behind a
number sign.  Points in the path are resolved, what may not stand in a path is percent
encoded, and escapes that are there are kept.

Main statement: `parse_control`, an address with a control character is refused at the
first of them.
-/

namespace Tombola

/-- An address. -/
structure Url where
  scheme : String
  userinfo : String
  host : String
  port : Option Int
  path : List Char
  query : Option (List Char)
  deriving Repr

namespace Url

/-! ## 1. Faults -/

/-- Why a text is no address. -/
inductive Fault where
  | tooLong
  | control (c : Char) (index : Nat)
  | port (text : String)
  | address4 (host : String)
  | address6 (host : String)
  | international (host : String)
  | pathAfterAuthority
  | twoSlashes
  | leadingColon
  deriving DecidableEq, Repr

def Fault.message : Fault → String
  | tooLong => "URL too long"
  | control c index =>
    "Invalid non-printable ASCII character in URL, " ++ Text.quoted (String.singleton c)
      ++ " at position " ++ toString index ++ "."
  | port text => "Invalid port: " ++ Text.quoted text
  | address4 host => "Invalid IPv4 address: " ++ Text.quoted host
  | address6 host => "Invalid IPv6 address: " ++ Text.quoted host
  | international host => "Invalid IDNA hostname: " ++ Text.quoted host
  | pathAfterAuthority => "For absolute URLs, path must be empty or begin with '/'"
  | twoSlashes => "Relative URLs cannot have a path starting with '//'"
  | leadingColon => "Relative URLs cannot have a path starting with ':'"

/-! ## 2. Parts -/

def maxLength : Nat := 65536

/-- Whether a character is an ASCII control character. -/
def isControl (c : Char) : Bool := c.toNat < 0x20 || c.toNat == 0x7F

/-- Whether a character may stand in a scheme behind its first letter. -/
def isSchemeChar (c : Char) : Bool := c.isAlphanum || c == '+' || c == '.' || c == '-'

/-- The scheme, if the text begins with one, and the rest behind its colon. -/
def splitScheme (cs : List Char) : List Char × List Char :=
  let name := cs.takeWhile isSchemeChar
  let named := match name with
    | [] => true
    | c :: _ => c.isAlpha
  match cs.dropWhile isSchemeChar with
  | ':' :: rest => if named then (name, rest) else ([], cs)
  | _ => ([], cs)

/-- The authority, if two slashes stand in front, and the rest behind it. -/
def splitAuthority : List Char → List Char × List Char
  | '/' :: '/' :: rest =>
    let inside (c : Char) : Bool := c ≠ '/' ∧ c ≠ '?' ∧ c ≠ '#'
    (rest.takeWhile inside, rest.dropWhile inside)
  | cs => ([], cs)

/-- The part before the last occurrence of a character, and the part behind it. -/
def splitLast? (mark : Char) (cs : List Char) : Option (List Char × List Char) :=
  if cs.contains mark then
    let back := cs.reverse
    some ((back.dropWhile (· ≠ mark)).tail.reverse, (back.takeWhile (· ≠ mark)).reverse)
  else none

/-- The host and the text of the port behind a colon. -/
def splitHost (cs : List Char) : List Char × List Char :=
  let bracketed := match cs, splitLast? ']' cs with
    | '[' :: _, some (before, behind) => some (before ++ [']'], behind)
    | _, _ => none
  let (host, rest) := bracketed.getD
    (cs.takeWhile fun c => c ≠ ':' ∧ c ≠ '@', cs.dropWhile fun c => c ≠ ':' ∧ c ≠ '@')
  match rest with
  | ':' :: port => (host, port)
  | port => (host, port)

/-! ## 3. Hosts and ports -/

/-- The characters of a host that stand as they are. -/
def isHostSafe (c : Char) : Bool :=
  c.isAlphanum || "-._~!$&'()*+,;=\"`\x7b\x7d%|\\".toList.contains c

/-- The host as it is sent: in small letters, and in ASCII. -/
def normalHost (cs : List Char) : Except Fault String :=
  let shown := String.ofList cs
  if cs = [] then .ok ""
  else if Host.looksLikeAddress4 cs then
    if Host.isAddress4 cs then .ok shown else .error (.address4 shown)
  else if cs.head? = some '[' ∧ cs.getLast? = some ']' then
    let inner := cs.tail.dropLast
    if Host.isAddress6 inner then .ok (String.ofList inner) else .error (.address6 shown)
  else if cs.all (·.toNat < 128) then
    .ok (String.ofList (Percent.encode isHostSafe (cs.map Text.small)))
  else match Host.encode (Text.lowered cs) with
    | .ok sent => .ok (String.ofList sent)
    | .error _ => .error (.international shown)

/-- The port that a scheme has without saying so. -/
def defaultPort? (scheme : String) : Option Int :=
  if scheme = "http" ∨ scheme = "ws" then some 80
  else if scheme = "https" ∨ scheme = "wss" then some 443
  else if scheme = "ftp" then some 21
  else none

/-- The port, unless it goes without saying. -/
def normalPort (scheme : String) (cs : List Char) : Except Fault (Option Int) :=
  if cs = [] then .ok none
  else match Command.Count.int? (Text.plain cs) with
    | none => .error (.port (String.ofList cs))
    | some n => .ok (if defaultPort? scheme = some n then none else some n)

/-! ## 4. Paths -/

/-- One segment of a path that is built up, the last segment first. -/
def pushSegment (out : List (List Char)) (segment : List Char) : List (List Char) :=
  if segment = ['.'] then out
  else if segment = ['.', '.'] then (if out = [[]] then out else out.tail)
  else segment :: out

/-- Resolves the segments of one and of two points. -/
def removeDots (path : List Char) : List Char :=
  let segments := Text.pieces (· == '/') path
  ['/'].intercalate (segments.foldl pushSegment []).reverse

/-- The characters of a path that stand as they are. -/
def isPathSafe (c : Char) : Bool :=
  0x20 < c.toNat && c.toNat < 0x7F && ! "\"#<>?`\x7b\x7d".toList.contains c

/-- The path percent encoded; the percent sign is safe, so escapes are kept. -/
def encodePath (path : List Char) : List Char := Percent.encode isPathSafe path

/-- The characters of a query that stand as they are. -/
def isQuerySafe (c : Char) : Bool :=
  0x20 < c.toNat && c.toNat < 0x7F && ! "\"#<>".toList.contains c

/-- Refuses paths that would be read as something else. -/
def checkPath (absolute named : Bool) (path : List Char) : Except Fault Unit :=
  if named then
    match path with
    | [] => .ok ()
    | '/' :: _ => .ok ()
    | _ => .error .pathAfterAuthority
  else if absolute then .ok ()
  else match path with
    | '/' :: '/' :: _ => .error .twoSlashes
    | ':' :: _ => .error .leadingColon
    | _ => .ok ()

/-! ## 5. Addresses -/

def parse (s : String) : Except Fault Url :=
  let cs := s.toList
  if maxLength < cs.length then .error .tooLong
  else match cs.dropWhile (! isControl ·) with
    | c :: _ => .error (.control c (cs.takeWhile (! isControl ·)).length)
    | [] => do
      let (scheme, rest) := splitScheme cs
      let (authority, rest) := splitAuthority rest
      let path := rest.takeWhile fun c => c ≠ '?' ∧ c ≠ '#'
      let query := match rest.dropWhile fun c => c ≠ '?' ∧ c ≠ '#' with
        | '?' :: q => some (q.takeWhile (· ≠ '#'))
        | _ => none
      let (userinfo, server) := (splitLast? '@' authority).getD ([], authority)
      let (host, port) := splitHost server
      let given := String.ofList scheme
      let host ← normalHost host
      let port ← normalPort given port
      let named := userinfo ≠ [] || host ≠ "" || port.isSome
      checkPath (scheme ≠ []) named path
      let path := if scheme ≠ [] || named then removeDots path else path
      pure ⟨Text.inSmall given, String.ofList userinfo, host, port, encodePath path, query⟩

/-- Whether the address names a server. -/
def isAbsolute (u : Url) : Bool := u.scheme ≠ "" && u.host ≠ ""

/-- The address under the root of no server; what is not absolute is sent there. -/
def rooted (u : Url) : Url :=
  ⟨"", "", "", none, '/' :: u.path.dropWhile (· == '/'), u.query⟩

/-- The server as it is named in a request, with its port. -/
def authority (u : Url) : String :=
  (if u.host.toList.contains ':' then "[" ++ u.host ++ "]" else u.host) ++
    match u.port with
    | some n => ":" ++ toString n
    | none => ""

/-- The host as it is shown: a name whose first label is in its ASCII form is decoded. -/
def shownHost (u : Url) : Except Host.Fault String :=
  if Host.asciiMark.isPrefixOf u.host.toList then (Host.decode u.host.toList).map Text.shown
  else .ok u.host

/-- The path as a server sees it. -/
def decodedPath (u : Url) : String :=
  if u.path = [] then "/" else String.ofList (Percent.decode u.path)

/-- The text of an address without a server. -/
def rootedText (u : Url) : String :=
  String.ofList (u.path ++ match u.query with
    | some q => '?' :: Percent.encode isQuerySafe q
    | none => [])

/-- An address with a control character is refused at the first of them. -/
theorem parse_control {s : String} {before rest : List Char} {c : Char}
    (hs : s.toList = before ++ c :: rest) (hb : ∀ d ∈ before, isControl d = false)
    (hc : isControl c = true) (hl : s.toList.length ≤ maxLength) :
    parse s = .error (.control c before.length) := by
  have h1 : s.toList.dropWhile (! isControl ·) = c :: rest := by
    rw [hs, List.dropWhile_append_of_pos (by simpa using hb)]
    simp [hc]
  have h2 : s.toList.takeWhile (! isControl ·) = before := by
    rw [hs, List.takeWhile_append_of_pos (by simpa using hb)]
    simp [hc]
  simp only [parse, h1, h2]
  rw [if_neg (by omega)]

end Url

end Tombola
