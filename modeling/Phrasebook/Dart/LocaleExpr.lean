-- SUMMARY: Locales as constructor expressions of Dart.
import Phrasebook.Dart.Literal
import Phrasebook.Locale

/-!
# Locale expressions

A locale without a script is written by its language and country in order. One
with a script names each subtag.
-/

namespace Phrasebook.Dart

/-- The shortest expression for the literals of a language, a country and a script. -/
def exprOfLiterals (language : String) (country script : Option String) : String :=
  match script, country with
  | none, none => "Locale(" ++ language ++ ")"
  | none, some country => "Locale(" ++ language ++ ", " ++ country ++ ")"
  | some script, none =>
    "Locale.fromSubtags(languageCode: " ++ language ++ ", scriptCode: " ++ script ++ ")"
  | some script, some country =>
    "Locale.fromSubtags(languageCode: " ++ language ++ ", scriptCode: " ++ script
      ++ ", countryCode: " ++ country ++ ")"

/-- The shortest expression for a locale. An empty subtag counts as an absent one. -/
def localeExpr (l : Locale) : String :=
  exprOfLiterals (literal l.language) ((Locale.filled l.country).map literal)
    ((Locale.filled l.script).map literal)

end Phrasebook.Dart
