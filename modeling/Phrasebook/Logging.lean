-- SUMMARY: Names of loggers and words for levels of reporting.
import Phrasebook.Notice
import Phrasebook.Text.Case

/-!
# Logging

All loggers live below the one of the package. A level is a number with up to
two names; a name is read in any letter case.
-/

namespace Phrasebook.Logging

open Text

/-- The logger that all others are below. -/
def packageLogger : String :=
  "i18n_codegen"

/-- The name of a logger, put below the package's unless it is there already. -/
def loggerName (name : String) : String :=
  if name = packageLogger || (packageLogger ++ ".").toList.isPrefixOf name.toList then name
  else packageLogger ++ "." ++ name

/-- The numbers of the named levels. -/
def levels : List (String × Int) :=
  [("CRITICAL", 50), ("FATAL", 50), ("ERROR", 40), ("WARN", 30), ("WARNING", 30), ("INFO", 20),
   ("DEBUG", 10), ("NOTSET", 0)]

/-- The number of a level's name. -/
def levelNumber? (name : String) : Option Int :=
  levels.lookup (String.ofList (toUpper name.toList))

/-- Whether notices of a level are logged where a level is named. -/
def isLogged (name : String) (level : Notice.Level) : Bool :=
  match levelNumber? name, levelNumber? level.word with
  | some least, some number => least ≤ number
  | _, _ => false

end Phrasebook.Logging
