-- SUMMARY: Phrases, the tables of one locale, and books of tables with a default locale.
import Phrasebook.Locale
import Phrasebook.Text.Order

/-!
# Books

A book holds the phrases of several locales. The table of the default locale
says which keys there are, how each is accessed and which placeholders it
takes; the other tables give the same keys other texts.

A table never holds a key twice, and a book always has a table for its default
locale. Both are part of the types.
-/

namespace Phrasebook

open Text

/-! ## Shapes -/

/-- How a phrase is accessed: as a plain value, or as a call with parameters. -/
structure Shape where
  parameters : List String
  deriving DecidableEq, Repr

namespace Shape

def isParameterized (s : Shape) : Bool :=
  !s.parameters.isEmpty

/-- The declaration of the parameters, each of the given type. -/
def parameterList (s : Shape) (type : String) : String :=
  joinStrings ", " (s.parameters.map fun name => type ++ " " ++ name)

/-- An access under a name: the name alone, or the name applied to the arguments. -/
def call (s : Shape) (name : String) (arguments : List String) : String :=
  if s.isParameterized then name ++ "(" ++ joinStrings ", " arguments ++ ")" else name

end Shape

/-! ## Phrases -/

/-- A text of one locale, under a key and the name of the key's accessor. -/
structure Phrase where
  key : String
  accessor : String
  text : String
  placeholders : List String := []
  deriving DecidableEq, Repr

def Phrase.shape (p : Phrase) : Shape :=
  ⟨p.placeholders⟩

/-! ## Tables and books -/

/-- The phrases of a locale, in order, each key once. -/
structure Table where
  locale : Locale
  phrases : List Phrase
  keys_nodup : (phrases.map Phrase.key).Nodup

/-- Why tables make no book. -/
inductive BookFault where
  | repeatedKey (locale : Locale)
  | noDefaultTable (locale : Locale)
  deriving DecidableEq, Repr

def BookFault.message : BookFault → String
  | .repeatedKey locale => "Duplicate keys in locale table " ++ locale.tag
  | .noDefaultTable locale => "Default locale " ++ locale.tag ++ " has no locale table"

namespace Table

def keys (t : Table) : List String :=
  t.phrases.map Phrase.key

/-- The phrase of a key. -/
def get? (t : Table) (key : String) : Option Phrase :=
  t.phrases.find? (·.key == key)

def has (t : Table) (key : String) : Bool :=
  (t.get? key).isSome

/-- A table of phrases with distinct keys. -/
def ofPhrases (locale : Locale) (phrases : List Phrase) : Except BookFault Table :=
  if h : (phrases.map Phrase.key).Nodup then .ok ⟨locale, phrases, h⟩
  else .error (.repeatedKey locale)

end Table

/-- Tables of several locales, one of them for the default locale. -/
structure Book where
  defaultLocale : Locale
  tables : List Table
  has_default : ∃ t ∈ tables, t.locale = defaultLocale

namespace Book

/-- A book of tables, one of which belongs to the default locale. -/
def ofTables (defaultLocale : Locale) (tables : List Table) : Except BookFault Book :=
  if h : ∃ t ∈ tables, t.locale = defaultLocale then .ok ⟨defaultLocale, tables, h⟩
  else .error (.noDefaultTable defaultLocale)

/-- The first table of a locale. -/
def table? (b : Book) (locale : Locale) : Option Table :=
  b.tables.find? (·.locale == locale)

theorem table?_default_isSome (b : Book) : (b.table? b.defaultLocale).isSome := by
  obtain ⟨t, ht, hl⟩ := b.has_default
  simp only [table?, List.find?_isSome]
  exact ⟨t, ht, by simp [hl]⟩

/-- The table of the default locale. -/
def defaultTable (b : Book) : Table :=
  (b.table? b.defaultLocale).get b.table?_default_isSome

/-- The distinct locales other than the default one, in order of first appearance. -/
def otherLocales (b : Book) : List Locale :=
  distinct ((b.tables.map Table.locale).filter (· != b.defaultLocale))

/-- All locales, the default one first. -/
def locales (b : Book) : List Locale :=
  b.defaultLocale :: b.otherLocales

/-- The tables other than the default one, in order. -/
def otherTables (b : Book) : List Table :=
  b.tables.eraseP (·.locale == b.defaultLocale)

/-- The default table, then the others sorted by the tags of their locales. -/
def tablesByTag (b : Book) : List Table :=
  b.defaultTable :: sortBy (·.locale.tag) b.otherTables

/-- How many texts are missing: keys of the default table that a table lacks, over all tables. -/
def missingCount (b : Book) : Nat :=
  (b.tables.flatMap fun t => b.defaultTable.keys.filter (!t.has ·)).length

end Book

end Phrasebook
