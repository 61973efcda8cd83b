import Tombola.Error
import Tombola.Text.Letters
/-!
# Log levels

A level is a number; the usual ones have names.  A name is looked up in capitals.  A name
that is not known means the level INFO.  Two names stand for something that is no level:
they are refused.
-/

namespace Tombola.Log

/-- Lines below a level are not written. -/
abbrev Level := Int

namespace Level

/-- The levels that have names. -/
def named : List (String × Level) :=
  [("CRITICAL", 50), ("FATAL", 50), ("ERROR", 40), ("WARNING", 30), ("WARN", 30),
    ("INFO", 20), ("DEBUG", 10), ("NOTSET", 0)]

def info : Level := 20

/-- What stands under a name that is a format and no level. -/
def basicFormat : String := "%(levelname)s:%(name)s:%(message)s"

/-- What stands under a name that is a table of styles and no level. -/
def stylesTable : String :=
  "\x7b'%': (<class 'logging.PercentStyle'>, '" ++ basicFormat ++ "'), '\x7b': "
    ++ "(<class 'logging.StrFormatStyle'>, '\x7blevelname\x7d:\x7bname\x7d:\x7bmessage\x7d'), '$': "
    ++ "(<class 'logging.StringTemplateStyle'>, "
    ++ "'$\x7blevelname\x7d:$\x7bname\x7d:$\x7bmessage\x7d')\x7d"

/-- The level with this name, in any letter case. -/
def ofName (name : String) : Except Failure Level :=
  let n := Text.inCapitals name
  if n = "BASIC_FORMAT" then
    .error (.plain .value ("Unknown level: " ++ Text.quoted basicFormat))
  else if n = "_STYLES" then
    .error (.plain .type ("Level not an integer or a valid string: " ++ stylesTable))
  else .ok ((named.lookup n).getD info)

/-- The name that a line shows for its level. -/
def shown (l : Level) : String :=
  if l = 50 then "critical"
  else if l = 40 then "error"
  else if l = 30 then "warning"
  else if l = 20 then "info"
  else if l = 10 then "debug"
  else if l = 0 then "notset"
  else "level " ++ toString l

end Level

/-! ## Configuration -/

/-- How the log is written. -/
structure Config where
  /-- Lines below this level are left out. -/
  level : Level
  json : Bool
  deriving DecidableEq, Repr

/-- The configuration for a level by name.  Unless it is said whether lines are JSON, they
are if the variable `APP_ENV`, by its exact name, is `prod` in the environment. -/
def Config.make (level : String) (json : Option Bool) (environment : List (String × String)) :
    Except Failure Config :=
  match Level.ofName level with
  | .error f => .error f
  | .ok l =>
    let production := match environment.find? (·.1 = "APP_ENV") with
      | some e => e.2 = "prod"
      | none => false
    .ok ⟨l, json.getD production⟩

end Tombola.Log
