import Tombola.Error
import Tombola.Text.Blank
/-!
# References to tables

A table is named by the path of its file, or by a reference that begins with `file:`.  A
reference may name this machine behind two slashes, and has options behind a question mark.
Escapes stand for octets; the escape of zero ends its part.  A number sign ends the reference.

The program does not ask for references when it opens a table.  They are read because the database
library is one that was built to read them everywhere (SQLITE_USE_URI); another build of it takes
every name for a path.

Main statement: `ofString_plain`, a text that does not begin with `file:` is a path.
-/

namespace Tombola.Groups

/-! ## 1. Access -/

/-- What a table may be opened for. -/
inductive Access where
  | read
  | write
  /-- To be written, and to be made if it is not there. -/
  | create
  /-- In memory, without a file. -/
  | memory
  deriving DecidableEq, Repr

namespace Access

def ofName? (s : String) : Option Access :=
  if s = "ro" then some .read
  else if s = "rw" then some .write
  else if s = "rwc" then some .create
  else if s = "memory" then some .memory
  else none

/-- Whether an access may be asked for where another one was given.  Less may be asked for,
and anything where memory was given. -/
def admits : Access → Access → Bool
  | _, memory => true
  | memory, _ => true
  | create, _ => true
  | write, a => a != create
  | read, a => a == read

end Access

/-! ## 2. References -/

/-- What names a table. -/
structure Reference where
  file : String
  access : Access
  /-- Whether the file is taken for one that never changes. -/
  immutable : Bool
  /-- Whether the system that keeps the file keeps it in memory. -/
  volatile : Bool
  deriving DecidableEq, Repr

namespace Reference

/-- The failure of a table that cannot be opened. -/
def fault (text : String) : Failure := .database text

/-- The octets of a part of a reference, up to an escape of zero. -/
def partOctets : List Char → List UInt8
  | '%' :: a :: b :: rest =>
    match Json.hexValue? (.char a), Json.hexValue? (.char b) with
    | some x, some y =>
      if x * 16 + y = 0 then [] else (x * 16 + y).toUInt8 :: partOctets rest
    | _, _ => '%'.toNat.toUInt8 :: partOctets (a :: b :: rest)
  | c :: rest => Utf8.encodeNat c.toNat ++ partOctets rest
  | [] => []

def partText (cs : List Char) : String := String.ofList (Utf8.decodeLossy (partOctets cs))

def optionOf (cs : List Char) : String × String :=
  (partText (cs.takeWhile (· ≠ '=')), partText (cs.dropWhile (· ≠ '=')).tail)

/-- The options behind a question mark; those without a name are passed over. -/
def optionsOf (cs : List Char) : List (String × String) :=
  ((Text.pieces (· == '&') cs).map optionOf).filter (·.1 ≠ "")

/-- What an option makes of an access. -/
def applyOption (access : Access) (option : String × String) : Except Failure Access :=
  let (name, value) := option
  if name = "mode" then
    match Access.ofName? value with
    | none => .error (fault ("no such access mode: " ++ value))
    | some a =>
      if access.admits a then .ok a else .error (fault ("access mode not allowed: " ++ value))
  else if name = "cache" ∧ value ≠ "shared" ∧ value ≠ "private" then
    .error (fault ("no such cache mode: " ++ value))
  else .ok access

def value? (name : String) (options : List (String × String)) : Option String :=
  (options.find? (·.1 = name)).map (·.2)

/-- Whether the value of an option says yes: a number other than zero, or a word. -/
def saysYes (s : String) : Bool :=
  match s.toList with
  | [] => false
  | c :: _ =>
    if Decimal.isDigit c then
      Decimal.value (s.toList.takeWhile Decimal.isDigit) % 256 ≠ 0
    else ["on", "yes", "true"].contains (String.ofList (s.toList.map Char.toLower))

/-- The systems that may keep a file; the last of them keeps it in memory. -/
def keepers : List String := ["unix", "unix-none", "unix-dotfile", "unix-excl", "memdb"]

/-- The part of a reference behind the machine, which has to be this one. -/
def behindMachine (cs : List Char) : Except Failure (List Char) :=
  match cs with
  | '/' :: '/' :: rest =>
    let machine := String.ofList (rest.takeWhile (· ≠ '/'))
    if machine = "" ∨ machine = "localhost" then .ok (rest.dropWhile (· ≠ '/'))
    else .error (fault ("invalid uri authority: " ++ machine))
  | cs => .ok cs

/-- The reference behind `file:`. -/
def ofChars (cs : List Char) : Except Failure Reference := do
  let cs := (← behindMachine cs).takeWhile (· ≠ '#')
  let options := optionsOf (cs.dropWhile (· ≠ '?')).tail
  let access ← options.foldlM applyOption .create
  let keeper := ((options.filter (·.1 = "vfs")).getLast?.map (·.2)).getD "unix"
  if keepers.contains keeper then
    pure ⟨partText (cs.takeWhile (· ≠ '?')), access,
      ((value? "immutable" options).map saysYes).getD false, keeper = "memdb"⟩
  else .error (fault ("no such vfs: " ++ keeper))

def ofString (s : String) : Except Failure Reference :=
  let mark := "file:".toList
  if mark.isPrefixOf s.toList then ofChars (s.toList.drop mark.length)
  else .ok ⟨s, .create, false, false⟩

theorem ofString_plain {s : String} (h : "file:".toList.isPrefixOf s.toList = false) :
    ofString s = .ok ⟨s, .create, false, false⟩ := by
  simp only [ofString, h, Bool.false_eq_true, if_false]

end Reference

end Tombola.Groups
