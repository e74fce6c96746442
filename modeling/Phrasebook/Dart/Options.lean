-- SUMMARY: The settings that only Dart classes have.
import Phrasebook.Dart.Names
import Phrasebook.Json.Display
import Phrasebook.Settings.Layers

/-!
# Options of Dart classes

The options are read from the custom section of the settings. The types have to
be identifiers; the marker for missing texts is shown as it is.
-/

namespace Phrasebook.Dart

structure Options where
  lookupType : String := "I18nLookup"
  customLookupType : String := "I18nLookup"
  delegateType : String := "I18nDelegate"
  missingMarker : Json := .str Settings.missingMarker
  /-- Whether the class has an accessor that finds it by its build context. -/
  contextAccessor : Bool := true

namespace Options

/-! ## Faults -/

/-- An option that cannot be used. -/
inductive Problem where
  | typeName (option : String) (value : Json)
  | contextAccessor

def Problem.message : Problem → String
  | .typeName option value =>
    "Invalid Dart type name for " ++ option ++ ": " ++ value.quotedForm
  | .contextAccessor => "context_accessor must be true or false"

inductive Fault where
  | problems (problems : List Problem)
  /-- The custom section is no object. -/
  | custom (cause : Misuse)

def Fault.message : Fault → String
  | .problems ps => Text.joinStrings "; " (ps.map Problem.message)
  | .custom cause => cause.message

/-! ## Reading -/

/-- The names of the options. -/
def names : List String :=
  ["lookup_type", "custom_lookup_type", "delegate_type", "missing_marker", "context_accessor"]

/-- Whether a text holds another one. -/
def holds (part : List Char) : List Char → Bool
  | [] => part.isEmpty
  | c :: cs => part.isPrefixOf (c :: cs) || holds part cs

/-- The fields of the custom section. A list or a text that mentions no option counts as an empty
section. -/
def customFields (custom : Settings.Custom) : Except Misuse Json.Fields :=
  match custom with
  | .members members => .ok members.texts
  | .value (.obj fields) => .ok fields
  | .value (.arr items) =>
    let mentioned := items.any fun item =>
      match item with
      | .str s => names.contains s
      | _ => false
    if mentioned then .error (.index .arr) else .ok []
  | .value (.str s) =>
    if names.any fun name => holds name.toList s.toList then .error (.index .str) else .ok []
  | .value v => .error (.container v.kind)

/-- The type that an option names, or why it names none. -/
def typeName (fields : Json.Fields) (option initial : String) : String × List Problem :=
  match fields.get? option with
  | none => (initial, [])
  | some (.str name) =>
    if isIdentifier name then (name, []) else (initial, [.typeName option (.str name)])
  | some v => (initial, [.typeName option v])

/-- The switch that an option sets, or why it sets none. -/
def switch (fields : Json.Fields) (option : String) (initial : Bool) : Bool × List Problem :=
  match fields.get? option with
  | none => (initial, [])
  | some (.bool b) => (b, [])
  | some _ => (initial, [.contextAccessor])

/-- The options of a custom section. What it holds beside them is passed over. -/
def ofCustom (custom : Settings.Custom) : Except Fault Options :=
  match customFields custom with
  | .error cause => .error (.custom cause)
  | .ok fields =>
    let initial : Options := {}
    let (lookupType, problems₁) := typeName fields "lookup_type" initial.lookupType
    let (customLookupType, problems₂) :=
      typeName fields "custom_lookup_type" initial.customLookupType
    let (delegateType, problems₃) := typeName fields "delegate_type" initial.delegateType
    let (contextAccessor, problems₄) := switch fields "context_accessor" initial.contextAccessor
    let missingMarker := (fields.get? "missing_marker").getD initial.missingMarker
    match problems₁ ++ problems₂ ++ problems₃ ++ problems₄ with
    | [] => .ok { lookupType, customLookupType, delegateType, missingMarker, contextAccessor }
    | problems => .error (.problems problems)

end Options

end Phrasebook.Dart
