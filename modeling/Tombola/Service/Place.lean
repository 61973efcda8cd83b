import Tombola.Url
/-!
# Places of the service

A request names what it is for by a path or by a whole address.  Points in the path are
resolved and escapes are read twice, since both ends of the connection read them.  Slashes at
the end of a path lead to the place without them, and one line feed at the end does not count.

Main statements: `at?_path`, every place stands at its path; `of?_slash`, a slash behind the
path of a place leads to it.
-/

namespace Tombola.Service

/-- What the service answers. -/
inductive Place where
  | command
  | health
  | readiness
  /-- What the service answers, for programs. -/
  | description
  | page
  | otherPage
  | returnPage
  deriving DecidableEq, Repr

namespace Place

def path : Place → String
  | command => "/slack"
  | health => "/healthz"
  | readiness => "/readyz"
  | description => "/openapi.json"
  | page => "/docs"
  | otherPage => "/redoc"
  | returnPage => "/docs/oauth2-redirect"

def all : List Place :=
  [command, health, readiness, description, page, otherPage, returnPage]

/-- Whether requests with a method are answered at a place. -/
def takes (method : String) : Place → Bool
  | command => method = "POST"
  | health | readiness => method = "GET"
  | _ => method = "GET" || method = "HEAD"

def at? (path : List Char) : Option Place :=
  all.find? fun p => path = p.path.toList || path = p.path.toList ++ ['\n']

def of? (path : List Char) : Option Place :=
  match at? path with
  | some p => some p
  | none =>
    if path.getLast? = some '/' then at? (Text.trimEnd (· == '/') path) else none

/-- Every place stands at its path. -/
theorem at?_path (p : Place) : at? p.path.toList = some p := by
  cases p <;> decide

/-- A slash behind the path of a place leads to it. -/
theorem of?_slash (p : Place) : of? (p.path.toList ++ ['/']) = some p := by
  cases p <;> decide

/-- The path in the text that a request names its place by. -/
def pathOf (target : String) : Except Url.Fault (List Char) :=
  (Url.parse target).map fun url =>
    let path := if url.isAbsolute then url.path else Url.removeDots url.rooted.path
    Percent.decode (Percent.decode (if path = [] then ['/'] else path))

end Place

end Tombola.Service
