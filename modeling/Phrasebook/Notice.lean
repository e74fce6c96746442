-- SUMMARY: What the library reports beside its results.
import Phrasebook.Text.Quoted

/-!
# Notices

A notice tells of something that was set right or given up on the way to a
result. Operations return their notices in the order in which they arose.
-/

namespace Phrasebook

open Text

inductive Notice where
  /-- A locale tag's variant has no place in a locale. -/
  | droppedVariant (variant tag : String)
  /-- A document's top-level keys without a meaning, sorted. -/
  | ignoredKeys (source : String) (keys : List String)
  /-- A class could not be generated. -/
  | generationFailed (message : String)
  deriving DecidableEq, Repr

namespace Notice

inductive Level where
  | warning
  | error
  deriving DecidableEq, Repr

def Level.word : Level → String
  | .warning => "WARNING"
  | .error => "ERROR"

def level : Notice → Level
  | .droppedVariant _ _ => .warning
  | .ignoredKeys _ _ => .warning
  | .generationFailed _ => .error

def message : Notice → String
  | .droppedVariant variant tag =>
    "Dropping variant " ++ variant ++ " of locale tag " ++ quoted tag
  | .ignoredKeys source keys => source ++ ": ignoring top-level keys " ++ joinStrings ", " keys
  | .generationFailed message => "Code generation failed: " ++ message

end Notice

end Phrasebook
