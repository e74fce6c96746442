-- SUMMARY: The generator classes registered under names of languages.
import Phrasebook.Generator
import Phrasebook.Settings.File

/-!
# Registries

A registry maps names of languages, in lower case, to entries. All names of an
entry, its language and its aliases, map to that entry, and no name belongs to
two entries: a registration that would take a name again is refused whole.
-/

namespace Phrasebook

open Text

/-- A registered class and the names it answers to. -/
structure Registry.Entry where
  language : String
  generator : GeneratorClass
  aliases : List String := []

namespace Registry

def Entry.names (e : Entry) : List String :=
  e.language :: e.aliases

end Registry

/-- The entry of each name, the names in the order of their registration. -/
structure Registry where
  entries : List (String × Registry.Entry) := []

namespace Registry

/-! ## Faults -/

/-- Why a registry refuses a registration or a language. -/
inductive Fault where
  | notGenerator
  | nameTaken (name owner : String)
  | unknownLanguage (language : String) (available : List String)
  | configKind (kind : Json.Kind)
  | creation (language : String) (fault : Dart.Options.Fault)
  | settings (fault : Settings.Fault)

def Fault.message : Fault → String
  | .notGenerator => "Generator class must inherit from CodeGenerator"
  | .nameTaken name owner => "'" ++ name ++ "' is already registered for " ++ owner
  | .unknownLanguage language available =>
    "No generator registered for language: " ++ language ++ ". Available: "
      ++ joinStrings ", " available
  | .configKind kind => "Invalid config type: <class '" ++ kind.word ++ "'>"
  | .creation language fault =>
    "Failed to create " ++ language ++ " generator: " ++ fault.message
  | .settings fault => fault.message

/-! ## Lookup -/

/-- The entry of a name in any letter case. -/
def find? (r : Registry) (name : String) : Option Entry :=
  r.entries.lookup (lower name)

def isSupported (r : Registry) (name : String) : Bool :=
  (r.find? name).isSome

/-- The languages, sorted. -/
def languages (r : Registry) : List String :=
  sortStrings (distinct (r.entries.map (·.2.language)))

/-- The entry of a language or an alias. -/
def entry (r : Registry) (name : String) : Except Fault Entry :=
  match r.find? name with
  | some e => .ok e
  | none => .error (.unknownLanguage name r.languages)

/-- The language that a name stands for. -/
def resolve (r : Registry) (name : String) : Except Fault String := do
  return (← r.entry name).language

/-! ## Registration -/

/-- The entry of a registration. An alias that equals the language says nothing. -/
def makeEntry (language : String) (generator : GeneratorClass) (aliases : List String) : Entry where
  language := lower language
  generator
  aliases := (aliases.map lower).filter (· != lower language)

/-- What is done to a registry: it may be refused, and leaves a registry in either case. -/
abbrev Change := ExceptT Fault (StateM Registry)

/-- Let a name stand for an entry, in place of any other one. -/
def put (r : Registry) (name : String) (e : Entry) : Registry :=
  { entries := r.entries.filter (·.1 != name) ++ [(name, e)] }

/-- Refuse a name that is taken. -/
def requireFree (name : String) : Change Unit := do
  if let some e := (← get).entries.lookup name then
    throw (.nameTaken name e.language)

/-- Register a class, or, if there is none, refuse what was given in its place. -/
def register (language : String) (generator : Option GeneratorClass) (aliases : List String) :
    Change Unit := do
  let some generator := generator | throw .notGenerator
  let e := makeEntry language generator aliases
  -- All names are checked before the first one is written.
  e.names.forM requireFree
  e.names.forM fun name => modify (·.put name e)

/-- The registry of the built-in generators. -/
def builtin : Registry :=
  let e := makeEntry "dart" dartClass ["flutter"]
  { entries := e.names.map (·, e) }

/-! ## Generators -/

/-- What a generator is configured by. -/
inductive Config where
  | settings (settings : Settings)
  /-- Overrides of the language's defaults, the path of a settings file, or neither. -/
  | value (v : Json)

/-- The settings that a configuration makes for a language. -/
def settingsFor (store : Store) (language : String) : Config → Except Fault Settings
  | .settings s => .ok s
  | .value (.str path) =>
    (Settings.load store language .null (.str path)).mapError .settings
  | .value (.obj fields) => (Settings.load store language (.obj fields) .null).mapError .settings
  | .value .null => (Settings.load store language .null .null).mapError .settings
  | .value v => .error (.configKind v.kind)

/-- The generator of a language under a configuration. -/
def create (r : Registry) (store : Store) (language : String) (config : Config) :
    Except Fault Generator := do
  let e ← r.entry language
  let settings ← settingsFor store e.language config
  (e.generator.create settings).mapError (.creation e.language)

/-- What is told of a language. -/
structure Info where
  name : String
  className : String
  extension : String
  aliases : List String
  module : String
  deriving DecidableEq, Repr

/-- What there is to tell of a language or an alias. -/
def info (r : Registry) (language : String) : Except Fault Info := do
  let e ← r.entry language
  return {
    name := e.generator.language
    className := e.generator.name
    extension := e.generator.extension
    aliases := sortStrings e.aliases
    module := e.generator.module }

end Registry

end Phrasebook
