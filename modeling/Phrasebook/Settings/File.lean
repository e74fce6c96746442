-- SUMMARY: Loading settings from a file, and saving them to one.
import Phrasebook.Json.Parser
import Phrasebook.Json.Printer
import Phrasebook.Settings.Layers
import Phrasebook.Store

/-!
# Settings files

A settings file is a JSON object. Saving writes the settings and, on the same
level, the members of the custom section.
-/

namespace Phrasebook.Settings

open Text

/-! ## Faults -/

/-- Why settings cannot be loaded or saved. -/
inductive Fault where
  | notFound (path : Path)
  | notJson (path : Path)
  | malformed (path : Path) (fault : Json.Fault)
  | excess (excess : Json.Excess)
  | unreadable (path : Path) (fault : Store.Fault)
  | notObject (path : Path)
  | unwritable (path : Path) (fault : Store.Fault)
  | encoding (fault : Utf8.Fault)
  /-- The path itself cannot be asked for. -/
  | badPath (path : Path) (fault : Store.Fault)
  | misuse (cause : Misuse)

def Fault.message : Fault → String
  | .notFound path => "Configuration file not found: " ++ path.text
  | .notJson path => "Configuration file must be JSON: " ++ path.text
  | .malformed path fault =>
    "Invalid JSON in configuration file " ++ path.text ++ ": " ++ fault.message
  | .excess e => e.message
  | .unreadable path fault =>
    "Failed to load configuration file " ++ path.text ++ ": " ++ fault.message path.text
  | .notObject path => "Configuration file must contain a JSON object: " ++ path.text
  | .unwritable path fault =>
    "Failed to save configuration to " ++ path.text ++ ": " ++ fault.message path.text
  | .encoding fault => fault.message
  | .badPath path fault => fault.message path.text
  | .misuse cause => cause.message

/-! ## Loading -/

/-- The fields of a settings file. -/
def readFile (store : Store) (path : Path) : Except Fault Json.Fields :=
  match store.exists? path with
  | .error fault => .error (.badPath path fault)
  | .ok false => .error (.notFound path)
  | .ok true =>
    if lower path.suffix != ".json" then .error (.notJson path)
    else
      match store.read path with
      | .error fault => .error (.unreadable path fault)
      | .ok bytes =>
        match Utf8.decode bytes with
        | .error fault => .error (.encoding fault)
        | .ok cs =>
          match Json.parse (String.ofList (Utf8.unifyBreaks cs)) with
          | .error (.fault fault) => .error (.malformed path fault)
          | .error (.excess excess) => .error (.excess excess)
          | .ok (.obj fields) => .ok fields
          | .ok _ => .error (.notObject path)

/-- The fields of the file that a value names, if it names one. -/
def fileFields (store : Store) (file : Json) : Except Fault Json.Fields :=
  if file.truthy then
    match file with
    | .str path => readFile store (Path.ofString path)
    | v => .error (.misuse (.path v.kind))
  else .ok []

/-- The fields of a value that overrides settings, if it counts as set. -/
def overrideFields (overrides : Json) : Except Misuse Json.Fields :=
  if overrides.truthy then
    match overrides with
    | .obj fields => .ok fields
    | v => .error (.operation v.kind "items")
  else .ok []

/-- The settings for a language, from its defaults, a file and overrides. -/
def load (store : Store) (language : String) (overrides file : Json) : Except Fault Settings := do
  let fileLayer ← fileFields store file
  let base ← (merge (defaultsOf language) fileLayer).mapError .misuse
  let overrideLayer ← (overrideFields overrides).mapError .misuse
  let base ← (merge base overrideLayer).mapError .misuse
  (ofMerged base).mapError .misuse

/-! ## Saving -/

/-- The members that saved settings consist of. -/
def toMembers (s : Settings) : Except Misuse Members := do
  let fields : Json.Fields := [
    ("output_file", s.outputFile),
    ("class_name", s.className),
    ("line_ending", s.lineEnding),
    ("key_case", s.keyCase),
    ("add_comments", s.addComments)]
  return (Members.ofFields fields).putAll (← s.custom.toMembers)

/-- The text of saved settings. -/
def fileText (s : Settings) : Except Misuse String := do
  return (Json.obj (← s.toMembers).fields).pretty

/-- Save settings at a path. -/
def save (store : Store) (s : Settings) (path : Path) : Except Fault Store :=
  match s.fileText with
  | .error cause => .error (.misuse cause)
  | .ok text =>
    match store.write path (Utf8.encode text.toList) with
    | .ok store => .ok store
    | .error .nulCharacter => .error (.badPath path .nulCharacter)
    | .error fault => .error (.unwritable path fault)

end Phrasebook.Settings
