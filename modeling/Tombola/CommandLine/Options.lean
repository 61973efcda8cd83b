import Tombola.Text.Similar
/-!
# Options among arguments

Arguments are options and words.  An option begins with a hyphen and has more than that; its
value follows an equals sign or is the next argument.  Two hyphens alone end the options.

Main statement: `scan_words`, where words end the options, everything from the first word on is
left as it stands.
-/

namespace Tombola.CommandLine

/-! ## 1. Rules -/

/-- An option that is known. -/
structure Flag where
  name : String
  takesValue : Bool
  deriving DecidableEq, Repr

/-- How arguments are read. -/
structure Rules where
  flags : List Flag
  /-- Whether an option that is not known is taken as a word. -/
  keepsUnknown : Bool
  /-- Whether options may stand behind words. -/
  interspersed : Bool
  deriving DecidableEq, Repr

def Rules.flag? (r : Rules) (name : String) : Option Flag := r.flags.find? (·.name = name)

/-- What is wrong with the options. -/
inductive OptionFault where
  /-- The option is not known, but some may be meant. -/
  | unknown (name : String) (meant : List String)
  | needsValue (name : String)
  | takesNoValue (name : String)
  deriving DecidableEq, Repr

/-! ## 2. One argument -/

/-- Whether an argument is an option. -/
def isOption (arg : String) : Bool :=
  match arg.toList with
  | '-' :: _ :: _ => true
  | _ => false

/-- The name of an option, and the value behind its equals sign. -/
def nameAndValue (arg : String) : String × Option String :=
  let (name, rest) := arg.toList.span (· ≠ '=')
  (String.ofList name, match rest with | [] => none | _ :: v => some (String.ofList v))

/-- The fault of an option that is not known.  One with a single hyphen stands for its first
letter. -/
def Rules.unknown (r : Rules) (arg : String) : OptionFault :=
  match arg.toList with
  | '-' :: '-' :: _ =>
    let name := (nameAndValue arg).1
    .unknown name (Text.similar (r.flags.map (·.name)) name)
  | cs => .unknown (String.ofList (cs.take 2)) []

/-! ## 3. All arguments -/

/-- Options that are given, with their values, and words. -/
structure Scan where
  given : List (String × String)
  words : List String
  deriving DecidableEq, Repr

namespace Scan

/-- One more option, in front of the others. -/
def give (name value : String) (s : Scan) : Scan := { s with given := (name, value) :: s.given }

def addWord (w : String) (s : Scan) : Scan := { s with words := w :: s.words }

def has (name : String) (s : Scan) : Bool := s.given.any (·.1 = name)

/-- The value of an option; of several the last counts. -/
def value? (name : String) (s : Scan) : Option String :=
  (s.given.reverse.find? (·.1 = name)).map (·.2)

end Scan

/-- Reads arguments.  An option without a value is given with an empty one. -/
def Rules.scan (r : Rules) : List String → Except OptionFault Scan
  | [] => .ok ⟨[], []⟩
  | arg :: rest =>
    if arg = "--" then .ok ⟨[], rest⟩
    else if ! isOption arg then
      if r.interspersed then (r.scan rest).map (Scan.addWord arg) else .ok ⟨[], arg :: rest⟩
    else
      let (name, attached) := nameAndValue arg
      match r.flag? name with
      | none =>
        if r.keepsUnknown then (r.scan rest).map (Scan.addWord arg) else .error (r.unknown arg)
      | some f =>
        match f.takesValue, attached, rest with
        | true, some v, rest => (r.scan rest).map (Scan.give name v)
        | true, none, v :: rest => (r.scan rest).map (Scan.give name v)
        | true, none, [] => .error (.needsValue name)
        | false, some _, _ => .error (.takesNoValue name)
        | false, none, rest => (r.scan rest).map (Scan.give name "")

/-- **Where words end the options,** everything from the first word on is left as it
stands. -/
theorem scan_words {r : Rules} (h : r.interspersed = false) {w : String} (hw : isOption w = false)
    (rest : List String) : r.scan (w :: rest) = .ok ⟨[], w :: rest⟩ := by
  have h' : w ≠ "--" := by
    rintro rfl
    exact absurd hw (by decide)
  simp [Rules.scan, h, hw, h']

end Tombola.CommandLine
