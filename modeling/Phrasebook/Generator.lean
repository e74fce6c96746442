-- SUMMARY: Generators of classes in any language, and the one for Dart among them.
import Phrasebook.Dart.Generator

/-!
# Generators

A generator turns a book into the text of a class. A generator class builds
generators from settings; it is what is registered for a language.
-/

namespace Phrasebook

/-- Why a book makes no class. -/
inductive GenerationFault where
  | names (fault : Dart.NameFault)
  | misuse (cause : Misuse)
  | template (fault : Template.EngineFault)

def GenerationFault.message : GenerationFault → String
  | .names fault => fault.message
  | .misuse cause => cause.message
  | .template fault => fault.message

/-- How far values are shown: a case style that is none, and what templates put out. Without a limit
every value is shown. -/
structure Limits where
  keyCase : Option Json.Limit := none
  output : Option Json.Limit := none

/-- What generates classes under some settings. -/
structure Generator where
  /-- The name of the target language. -/
  language : String
  /-- The ending of the names of generated files. -/
  extension : String
  settings : Settings
  /-- The allocator of accessor names, if the language has one of its own. -/
  names : Except Misuse (Option Naming.Allocator) := .ok none
  /-- What there is to say of a book. -/
  review : Book → Except Misuse (List Warning) := fun b => .ok b.review
  generate : Limits → Book → Except GenerationFault String
  /-- The settings in effect, if the generator tells them. -/
  info? : Option Json.Fields := none

/-- What builds generators from settings. -/
structure GeneratorClass where
  name : String
  module : String
  language : String
  extension : String
  create : Settings → Except Dart.Options.Fault Generator

/-- A Dart generator as a generator. -/
def Dart.Generator.toGenerator (g : Dart.Generator) : Phrasebook.Generator where
  language := "dart"
  extension := ".dart"
  settings := g.settings
  names := g.names.map some
  review := g.review
  generate limits b :=
    match g.unshownMarker? b limits.output with
    | none => (g.generate b).mapError .names
    | some cause => do
      (Dart.checkNames g.settings.className b).mapError .names
      .error (.template (Dart.markerFault cause))
  info? := some g.info

/-- The class of Dart generators. -/
def dartClass : GeneratorClass where
  name := "DartI18nGenerator"
  module := "i18n_codegen.codegen.languages.dart.generator"
  language := "dart"
  extension := ".dart"
  create settings := (Dart.Generator.ofSettings settings).map Dart.Generator.toGenerator

end Phrasebook
