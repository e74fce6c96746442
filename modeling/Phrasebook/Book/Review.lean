-- SUMMARY: Inconsistencies between a book's tables, which do not keep it from being used.
import Phrasebook.Book.Basic

/-!
# Reviewing a book

Every table of another locale is held against the default table: keys it lacks,
keys it has beyond, and phrases whose placeholders differ.
-/

namespace Phrasebook

open Text

/-- Something in a book that its author may want to know. -/
inductive Warning where
  | noPhrases (locale : Locale)
  | missing (locale : Locale) (keys : List String)
  | extra (locale : Locale) (keys : List String)
  | placeholders (locale : Locale) (key : String) (own expected : List String)
  /-- The class name cannot stand in the generated code. -/
  | className (name : String)
  deriving DecidableEq, Repr

def Warning.message : Warning → String
  | .noPhrases locale => "Default locale " ++ locale.tag ++ " has no strings"
  | .missing locale keys =>
    "Locale " ++ locale.tag ++ " is missing " ++ toString keys.length ++ " translation(s): "
      ++ joinStrings ", " keys
  | .extra locale keys =>
    "Locale " ++ locale.tag ++ " defines keys absent from the default locale (ignored): "
      ++ joinStrings ", " keys
  | .placeholders locale key own expected =>
    "Placeholders of " ++ locale.tag ++ "." ++ key ++ " " ++ quotedList own
      ++ " differ from the default " ++ quotedList expected
  | .className name => "Invalid Dart class name: " ++ name

namespace Table

/-- The keys of the default table that a table lacks. -/
def missingKeys (t defaultTable : Table) : List String :=
  defaultTable.keys.filter (!t.has ·)

/-- The keys that the default table does not have. -/
def extraKeys (t defaultTable : Table) : List String :=
  t.keys.filter (!defaultTable.keys.contains ·)

/-- The phrases whose placeholders differ from those of the default table. -/
def placeholderWarnings (t defaultTable : Table) : List Warning :=
  t.phrases.filterMap fun p =>
    match defaultTable.get? p.key with
    | none => none
    | some definition =>
      if p.placeholders = definition.placeholders then none
      else some (.placeholders t.locale p.key p.placeholders definition.placeholders)

/-- What there is to say of a table beside the default one. -/
def review (t defaultTable : Table) : List Warning :=
  let missing := t.missingKeys defaultTable
  let extra := t.extraKeys defaultTable
  (if missing.isEmpty then [] else [.missing t.locale missing])
    ++ (if extra.isEmpty then [] else [.extra t.locale extra])
    ++ t.placeholderWarnings defaultTable

end Table

/-- What there is to say of a book. -/
def Book.review (b : Book) : List Warning :=
  (if b.defaultTable.phrases.isEmpty then [.noPhrases b.defaultLocale] else [])
    ++ (b.tables.filter (·.locale != b.defaultLocale)).flatMap (·.review b.defaultTable)

end Phrasebook
