-- SUMMARY: Settings from layers: a language's defaults, a file, and explicit overrides.
import Phrasebook.Settings.Basic
import Phrasebook.Text.Case

/-!
# Layers of settings

A layer is a list of fields. A later layer replaces the fields of the ones
before it, and the members of their custom sections one by one. When all layers
are merged, fields that are no settings join the custom section.
-/

namespace Phrasebook.Settings

/-! ## Defaults -/

/-- What is shown for a missing text unless the settings say otherwise. -/
def missingMarker : String :=
  "<font color=\"yellow\">⚠</font>"

/-- The languages with defaults of their own. -/
def languageDefaults : List (String × Json.Fields) :=
  [("dart", [
    ("class_name", .str "I18n"),
    ("key_case", .str "camel"),
    ("add_comments", .bool true),
    ("custom", .obj [
      ("lookup_type", .str "I18nLookup"),
      ("custom_lookup_type", .str "I18nLookup"),
      ("delegate_type", .str "I18nDelegate"),
      ("missing_marker", .str missingMarker),
      ("context_accessor", .bool true)])])]

def languages : List String :=
  languageDefaults.map Prod.fst

/-- The defaults of a language, in any letter case; none for a language that is not listed. -/
def defaultsOf (language : String) : Json.Fields :=
  (languageDefaults.lookup (Text.lower language)).getD []

/-! ## Merging -/

/-- Put the members of a custom section into that of the fields. -/
def mergeCustom (base members : Json.Fields) : Except Misuse Json.Fields :=
  match base.get? "custom" with
  | none => .ok (base.put "custom" (.obj (Json.Fields.putAll [] members)))
  | some (.obj custom) => .ok (base.put "custom" (.obj (Json.Fields.putAll custom members)))
  | some v => .error (.operation v.kind "update")

/-- Put one field over the fields. -/
def mergeField (base : Json.Fields) (key : String) (value : Json) : Except Misuse Json.Fields :=
  match value with
  | .obj members => if key = "custom" then mergeCustom base members else .ok (base.put key value)
  | _ => .ok (base.put key value)

/-- Put a layer over the fields. -/
def merge (base : Json.Fields) : Json.Fields → Except Misuse Json.Fields
  | [] => .ok base
  | (key, value) :: rest => do merge (← mergeField base key value) rest

/-! ## Settings -/

/-- The settings of merged fields. What is no setting belongs to the custom section, and goes
before what is written there. -/
def ofMerged (fields : Json.Fields) : Except Misuse Settings := do
  let extra := fields.filter (!fieldNames.contains ·.1)
  if extra.isEmpty then return ofKnown fields
  let known := ofKnown fields
  return { known with custom := ← known.custom.extend extra }

/-- The settings for a language, with the fields of a file and overrides over its defaults. -/
def ofLayers (language : String) (file overrides : Json.Fields) : Except Misuse Settings := do
  let base ← merge (defaultsOf language) file
  let base ← merge base overrides
  ofMerged base

end Phrasebook.Settings
