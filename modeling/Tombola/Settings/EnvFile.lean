import Tombola.Text.Blank
import Tombola.Groups.Entries
/-!
# Environment files

A file of settings has a binding on each line: an optional `export`, a name, an equals sign
and a value.  A value is quoted, and then may go over lines and hold escapes, or plain, and
then ends before a comment or the end of its line.  A name may stand without a value.  A line
that is none of this is passed over, and so is a byte order mark in front of the file.  A
value may name others by `${NAME}` or `${NAME:-default}`: values bound above in the file, or
else in the environment.
-/

namespace Tombola.Settings.EnvFile

open Groups

/-! ## 1. Lines -/

/-- All kinds of line end as newlines. -/
def newlines : List Char → List Char
  | '\r' :: '\n' :: cs => '\n' :: newlines cs
  | '\r' :: cs => '\n' :: newlines cs
  | c :: cs => c :: newlines cs
  | [] => []

/-- Blanks that do not end a line. -/
def isInline (c : Char) : Bool := Text.isBlank c && c ≠ '\n'

/-- What follows the end of the present line. -/
def nextLine (cs : List Char) : List Char := (cs.dropWhile (· ≠ '\n')).drop 1

/-! ## 2. Names -/

/-- Passes over the word `export` with blanks behind it. -/
def skipExport (cs : List Char) : List Char :=
  match cs with
  | 'e' :: 'x' :: 'p' :: 'o' :: 'r' :: 't' :: c :: rest =>
    if isInline c then rest.dropWhile isInline else cs
  | _ => cs

/-- Whether a character may stand in a plain name. -/
def isNameChar (c : Char) : Bool := c ≠ '=' && c ≠ '#' && ! Text.isBlank c

/-- A name, quoted or plain, and the rest.  A comment has no name. -/
def name? : List Char → Option (Option String × List Char)
  | '#' :: rest => some (none, '#' :: rest)
  | '\'' :: rest =>
    match rest.takeWhile (· ≠ '\''), rest.dropWhile (· ≠ '\'') with
    | c :: cs, _ :: after => some (some (String.ofList (c :: cs)), after)
    | _, _ => none
  | cs =>
    match cs.takeWhile isNameChar with
    | [] => none
    | name => some (some (String.ofList name), cs.dropWhile isNameChar)

/-! ## 3. Values -/

/-- The text up to the closing quote, and the rest.  A backslash and the character behind it
belong together, so a quote behind a backslash does not close. -/
def untilQuote? (q : Char) : List Char → Option (List Char × List Char)
  | '\\' :: c :: cs => (untilQuote? q cs).map fun (v, r) => ('\\' :: c :: v, r)
  | c :: cs => if c = q then some ([], cs) else (untilQuote? q cs).map fun (v, r) => (c :: v, r)
  | [] => none

/-- What a letter behind a backslash stands for between double quotes. -/
def doubleEscape? : Char → Option Char
  | '\\' => some '\\'
  | '\'' => some '\''
  | '"' => some '"'
  | 'a' => some '\x07'
  | 'b' => some '\x08'
  | 'f' => some '\x0c'
  | 'n' => some '\n'
  | 'r' => some '\r'
  | 't' => some '\t'
  | 'v' => some '\x0b'
  | _ => none

/-- What a letter behind a backslash stands for between single quotes. -/
def singleEscape? : Char → Option Char
  | '\\' => some '\\'
  | '\'' => some '\''
  | _ => none

/-- Resolves the escapes that `letter` knows; any other backslash stands for itself. -/
def unescape (letter : Char → Option Char) : List Char → List Char
  | '\\' :: c :: cs =>
    match letter c with
    | some l => l :: unescape letter cs
    | none => '\\' :: unescape letter (c :: cs)
  | c :: cs => c :: unescape letter cs
  | [] => []

/-- A quoted value behind its opening quote.  It has to be closed. -/
def quoted? (q : Char) (letter : Char → Option Char) (cs : List Char) :
    Option (String × List Char) :=
  (untilQuote? q cs).map fun (v, r) => (String.ofList (unescape letter v), r)

/-- A plain value up to a number sign with a blank before it. -/
def beforeComment : List Char → List Char
  | [] => []
  | c :: cs =>
    if Text.isBlank c ∧ (cs.dropWhile Text.isBlank).head? = some '#' then []
    else c :: beforeComment cs

/-- The value behind an equals sign, and the rest.  Blanks in front do not count, but behind
them a number sign begins a comment and the value is empty. -/
def value? (cs : List Char) : Option (String × List Char) :=
  match cs.dropWhile isInline with
  | '\'' :: rest => quoted? '\'' singleEscape? rest
  | '"' :: rest => quoted? '"' doubleEscape? rest
  | rest =>
    if rest.head? = some '#' ∧ cs.head?.any isInline then some ("", rest)
    else
      let line := rest.takeWhile (· ≠ '\n')
      some (String.ofList (Text.trimEnd Text.isBlank (beforeComment line)),
        rest.dropWhile (· ≠ '\n'))

/-! ## 4. Bindings -/

/-- A name and its value, where it has one. -/
abbrev Binding := String × Option String

/-- Passes over a comment and the end of the line; `none` if anything else stands there. -/
def lineEnd? (cs : List Char) : Option (List Char) :=
  let cs := cs.dropWhile isInline
  match cs with
  | [] => some []
  | '\n' :: rest => some rest
  | '#' :: _ => some (nextLine cs)
  | _ => none

/-- One binding at the front of a text that does not begin with a blank: what it binds, and
the rest.  After a fault the rest of the line is passed over. -/
def binding (cs : List Char) : Option Binding × List Char :=
  let cs := skipExport cs
  match name? cs with
  | none => (none, nextLine cs)
  | some (name, rest) =>
    let finish (value : Option String) (rest : List Char) : Option Binding × List Char :=
      match lineEnd? rest with
      | some after => (name.map fun n => (n, value), after)
      | none => (none, nextLine rest)
    match rest.dropWhile isInline with
    | '=' :: rest =>
      match value? rest with
      | some (v, after) => finish (some v) after
      | none => (none, nextLine (rest.dropWhile isInline))
    | rest => finish none rest

/-- The bindings of a text; each takes at least one character. -/
def bindingsFrom : Nat → List Char → List Binding
  | 0, _ => []
  | fuel + 1, cs =>
    match cs.dropWhile Text.isBlank with
    | [] => []
    | cs =>
      let (b, rest) := binding cs
      b.toList ++ bindingsFrom fuel rest

/-- A text without the byte order mark in front. -/
def withoutMark : List Char → List Char
  | '\uFEFF' :: cs => cs
  | cs => cs

def bindings (file : String) : List Binding :=
  let cs := newlines (withoutMark file.toList)
  bindingsFrom cs.length cs

/-! ## 5. Names inside values -/

/-- A variable behind `${`: its name, its default, and the rest behind the closing brace. -/
def reference? (cs : List Char) : Option (String × Option String × List Char) :=
  let name := String.ofList (cs.takeWhile fun c => c ≠ '\x7d' ∧ c ≠ ':')
  match cs.dropWhile fun c => c ≠ '\x7d' ∧ c ≠ ':' with
  | '\x7d' :: rest => some (name, none, rest)
  | ':' :: '-' :: rest =>
    match rest.dropWhile (· ≠ '\x7d') with
    | _ :: after => some (name, some (String.ofList (rest.takeWhile (· ≠ '\x7d'))), after)
    | [] => none
  | _ => none

/-- Puts values in place of variables. -/
def expandFrom (look : String → Option (Option String)) : Nat → List Char → List Char
  | 0, cs => cs
  | fuel + 1, cs =>
    match cs with
    | '$' :: '\x7b' :: rest =>
      match reference? rest with
      | some (name, default, after) =>
        let v := match look name with
          | some v => v.getD ""
          | none => default.getD ""
        v.toList ++ expandFrom look fuel after
      | none => '$' :: expandFrom look fuel ('\x7b' :: rest)
    | c :: rest => c :: expandFrom look fuel rest
    | [] => []

def expand (look : String → Option (Option String)) (s : String) : String :=
  String.ofList (expandFrom look s.toList.length s.toList)

/-- The values that a file binds, given the environment.  A name that is bound twice keeps
its place and its last value. -/
def values (environment : List (String × String)) (file : String) : Entries (Option String) :=
  (bindings file).foldl (fun bound b =>
    let look (n : String) : Option (Option String) :=
      match bound.get? n with
      | some v => some v
      | none => (environment.find? (·.1 = n)).map fun e => some e.2
    bound.put b.1 (b.2.map (expand look))) []

end Tombola.Settings.EnvFile
