-- SUMMARY: The settings of a generated class, and which of their values make sense.
import Phrasebook.Json.Display
import Phrasebook.Settings.Custom
import Phrasebook.Text.Identifier

/-!
# Settings

Settings hold the values they were given, whatever these are. Validation tells
which of them cannot be used, and stops at a value of a kind that it cannot
judge.
-/

namespace Phrasebook

structure Settings where
  /-- The file that the class is written to. -/
  outputFile : Json := .null
  className : Json := .str "I18n"
  lineEnding : Json := .str "\n"
  /-- The style of accessor names derived from keys. -/
  keyCase : Json := .str "camel"
  /-- Whether accessors are documented by a table of their texts. -/
  addComments : Json := .bool true
  /-- What the target language alone knows. -/
  custom : Settings.Custom := .value (.obj [])

namespace Settings

/-- The names of the settings, in the order in which they are written. -/
def fieldNames : List String :=
  ["output_file", "class_name", "line_ending", "key_case", "add_comments", "custom"]

/-- The settings that the fields give, and the default of every other one. -/
def ofKnown (fields : Json.Fields) : Settings :=
  let initial : Settings := {}
  { outputFile := (fields.get? "output_file").getD initial.outputFile
    className := (fields.get? "class_name").getD initial.className
    lineEnding := (fields.get? "line_ending").getD initial.lineEnding
    keyCase := (fields.get? "key_case").getD initial.keyCase
    addComments := (fields.get? "add_comments").getD initial.addComments
    custom := ((fields.get? "custom").map Custom.value).getD initial.custom }

/-- The settings that the fields give. Every field has to be a setting. -/
def ofFields (fields : Json.Fields) : Except Misuse Settings :=
  match fields.keys.find? (!fieldNames.contains ·) with
  | some name => .error (.setting name)
  | none => .ok (ofKnown fields)

/-! ## Validation -/

/-- A setting that cannot be used. -/
inductive Problem where
  | className (name : String)
  | keyCase (value : Json)
  | lineEnding (value : Json)

def Problem.message : Problem → String
  | .className name => "Invalid class_name: " ++ name
  | .keyCase value => "Invalid key_case: " ++ value.display
  | .lineEnding value => "Invalid line_ending: " ++ value.quotedForm

/-- The styles that settings may name. -/
def keyCases : List String :=
  ["camel", "pascal", "snake"]

def classNameProblems : Json → Except Misuse (List Problem)
  | .str name => .ok (if Text.isIdentifier name then [] else [.className name])
  | v => .error (.operation v.kind "isidentifier")

def keyCaseProblems : Json → Except Misuse (List Problem)
  | .str word => .ok (if keyCases.contains word then [] else [.keyCase (.str word)])
  | .arr items => .error (.element (Json.arr items).kind)
  | .obj fields => .error (.element (Json.obj fields).kind)
  | v => .ok [.keyCase v]

def lineEndingProblems : Json → List Problem
  | .str "\n" => []
  | .str "\x0d\n" => []
  | v => [.lineEnding v]

/-- What is wrong with the settings. -/
def validate (s : Settings) : Except Misuse (List Problem) := do
  let ofClassName ← classNameProblems s.className
  let ofKeyCase ← keyCaseProblems s.keyCase
  return ofClassName ++ ofKeyCase ++ lineEndingProblems s.lineEnding

end Settings

end Phrasebook
