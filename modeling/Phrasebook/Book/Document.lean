-- SUMMARY: Books from documents: the format of documents, and the accessor each key receives.
import Phrasebook.Book.Basic
import Phrasebook.Json.Basic
import Phrasebook.Naming.Allocator
import Phrasebook.Notice

/-!
# Documents

A document is a JSON object with a default locale and, for every locale tag, an
object of entries. An entry is a text, or an object that adds placeholders and
the name of its accessor.

Accessor names given in the default locale are claimed before any name is
derived from a key. The other locales take over the names of the keys that the
default locale has, and its placeholders unless they give their own.
-/

namespace Phrasebook.Document

/-! ## Faults -/

/-- Why a document makes no book. -/
inductive Fault where
  | notObject
  | noDefaultLocale
  | noLocales
  | localeTag (fault : Locale.Fault)
  | repeatedLocale (locale : Locale)
  | noDefaultEntries (tag : String)
  | entriesNotObject (tag : String)
  | entryKind (tag key : String)
  | noText (tag key : String)
  | placeholders (tag key : String)
  | accessor (tag key : String)
  | book (fault : BookFault)
  deriving DecidableEq, Repr

def Fault.message : Fault → String
  | .notObject => "Resource document must be a JSON object"
  | .noDefaultLocale => "Resource document needs a 'default_locale' string"
  | .noLocales => "Resource document needs a non-empty 'locales' object"
  | .localeTag fault => fault.message
  | .repeatedLocale locale => "Locale " ++ locale.tag ++ " is defined more than once"
  | .noDefaultEntries tag => "No strings for default locale '" ++ tag ++ "'"
  | .entriesNotObject tag => "Strings for locale '" ++ tag ++ "' must be a JSON object"
  | .entryKind tag key => "Unsupported entry type for " ++ tag ++ "." ++ key
  | .noText tag key => "Missing string 'value' for " ++ tag ++ "." ++ key
  | .placeholders tag key =>
    "'placeholders' of " ++ tag ++ "." ++ key ++ " must be a list of strings"
  | .accessor tag key => "'escaped_key' of " ++ tag ++ "." ++ key ++ " must be a string"
  | .book fault => fault.message

/-! ## Outline -/

/-- The entries under a tag, not yet read. -/
structure Section where
  locale : Locale
  tag : String
  entries : Json

/-- A document whose tags are read. -/
structure Outline where
  defaultLocale : Locale
  defaultTag : String
  sections : List Section

def variantNotices (tag : String) (reading : Locale.Reading) : List Notice :=
  reading.variant.toList.map (.droppedVariant · tag)

/-- Read the tags in order. A locale may not come a second time. -/
def readSections (seen : List Locale) :
    List (String × Json) → Except Fault (List Section) × List Notice
  | [] => (.ok [], [])
  | (tag, entries) :: rest =>
    match Locale.parse tag with
    | .error fault => (.error (.localeTag fault), [])
    | .ok reading =>
      let notices := variantNotices tag reading
      if seen.contains reading.locale then (.error (.repeatedLocale reading.locale), notices)
      else
        let (sections, more) := readSections (reading.locale :: seen) rest
        (sections.map (⟨reading.locale, tag, entries⟩ :: ·), notices ++ more)

/-- Read the frame of a document. -/
def outline (document : Json) : Except Fault Outline × List Notice :=
  match document with
  | .obj fields =>
    match fields.lookup "default_locale" with
    | some (.str tag) =>
      if tag = "" then (.error .noDefaultLocale, [])
      else
        match fields.lookup "locales" with
        | some (.obj (entry :: entries)) =>
          match Locale.parse tag with
          | .error fault => (.error (.localeTag fault), [])
          | .ok reading =>
            let (sections, notices) := readSections [] (entry :: entries)
            (sections.map (⟨reading.locale, tag, ·⟩), variantNotices tag reading ++ notices)
        | _ => (.error .noLocales, [])
    | _ => (.error .noDefaultLocale, [])
  | _ => (.error .notObject, [])

/-! ## Entries -/

/-- What an entry says. -/
structure Entry where
  text : String
  placeholders : List String := []
  accessor : Option String := none
  deriving DecidableEq, Repr

/-- The strings of a list of strings. -/
def strings? : List Json → Option (List String)
  | [] => some []
  | .str s :: items => (strings? items).map (s :: ·)
  | _ :: _ => none

/-- The placeholders of an entry. Anything that does not count as set stands for none. -/
def placeholders? : Option Json → Option (List String)
  | none => some []
  | some v =>
    if v.truthy then
      match v with
      | .arr items => strings? items
      | _ => none
    else some []

/-- Read the entry of a key. -/
def readEntry (tag key : String) : Json → Except Fault Entry
  | .str text => .ok { text }
  | .obj fields =>
    match fields.lookup "value" with
    | some (.str text) =>
      match placeholders? (fields.lookup "placeholders") with
      | none => .error (.placeholders tag key)
      | some placeholders =>
        match fields.lookup "escaped_key" with
        | none | some .null => .ok { text, placeholders }
        | some (.str accessor) => .ok { text, placeholders, accessor }
        | some _ => .error (.accessor tag key)
    | _ => .error (.noText tag key)
  | _ => .error (.entryKind tag key)

/-! ## Phrases -/

open Naming

/-- Claim every accessor name that the entries give, up to the first faulty entry. -/
def claimAccessors (tag : String) :
    List (String × Json) → Allocator → Except Fault Unit × Allocator
  | [], names => (.ok (), names)
  | (key, value) :: rest, names =>
    match readEntry tag key value with
    | .error fault => (.error fault, names)
    | .ok entry =>
      claimAccessors tag rest (match entry.accessor with
        | some name => names.claim name
        | none => names)

/-- The phrase of an entry. A key that the default table defines keeps the accessor it has there,
and the placeholders unless the entry gives others. -/
def toPhrase (style : Style) (definitions : List Phrase) (key : String) (entry : Entry)
    (names : Allocator) : Phrase × Allocator :=
  match definitions.find? (·.key == key) with
  | some definition =>
    let placeholders :=
      if entry.placeholders.isEmpty then definition.placeholders else entry.placeholders
    ({ key, accessor := definition.accessor, text := entry.text, placeholders }, names)
  | none =>
    match entry.accessor with
    | some accessor =>
      ({ key, accessor, text := entry.text, placeholders := entry.placeholders }, names)
    | none =>
      let (accessor, names) := names.allocate { key, style }
      ({ key, accessor, text := entry.text, placeholders := entry.placeholders }, names)

/-- The phrases of entries, in order, up to the first faulty entry. -/
def toPhrases (style : Style) (definitions : List Phrase) (tag : String) :
    List (String × Json) → Allocator → Except Fault (List Phrase) × Allocator
  | [], names => (.ok [], names)
  | (key, value) :: rest, names =>
    match readEntry tag key value with
    | .error fault => (.error fault, names)
    | .ok entry =>
      let (phrase, names) := toPhrase style definitions key entry names
      let (phrases, names) := toPhrases style definitions tag rest names
      (phrases.map (phrase :: ·), names)

/-- The phrases of the default locale. -/
def defaultPhrases (style : Style) (home : Section) (names : Allocator) :
    Except Fault (List Phrase) × Allocator :=
  match home.entries with
  | .obj entries =>
    match claimAccessors home.tag entries names with
    | (.error fault, names) => (.error fault, names)
    | (.ok (), names) => toPhrases style [] home.tag entries names
  | _ => (.error (.entriesNotObject home.tag), names)

/-! ## Books -/

def toTable (locale : Locale) (phrases : List Phrase) : Except Fault Table :=
  (Table.ofPhrases locale phrases).mapError .book

/-- The tables of the sections, in order, up to the first faulty one. -/
def toTables (style : Style) (defaultLocale : Locale) (definitions : List Phrase) :
    List Section → Allocator → Except Fault (List Table) × Allocator
  | [], names => (.ok [], names)
  | s :: rest, names =>
    let (phrases, names) :=
      if s.locale = defaultLocale then (.ok definitions, names)
      else
        match s.entries with
        | .obj entries => toPhrases style definitions s.tag entries names
        | _ => (.error (.entriesNotObject s.tag), names)
    match phrases.bind (toTable s.locale) with
    | .error fault => (.error fault, names)
    | .ok table =>
      let (tables, names) := toTables style defaultLocale definitions rest names
      (tables.map (table :: ·), names)

/-- The book of an outline. -/
def toBook (style : Style) (o : Outline) (names : Allocator) : Except Fault Book × Allocator :=
  match o.sections.find? (·.locale == o.defaultLocale) with
  | none => (.error (.noDefaultEntries o.defaultTag), names)
  | some home =>
    match defaultPhrases style home names with
    | (.error fault, names) => (.error fault, names)
    | (.ok definitions, names) =>
      let (tables, names) := toTables style o.defaultLocale definitions o.sections names
      (tables.bind fun ts => (Book.ofTables o.defaultLocale ts).mapError .book, names)

/-- What comes of a document. The names that were given or claimed on the way stay so even if the
document has a fault. -/
structure Conversion where
  result : Except Fault Book
  names : Allocator
  notices : List Notice

/-- Make a book of a document, deriving accessor names in a style. -/
def convert (style : Style) (names : Allocator) (document : Json) : Conversion :=
  match outline document with
  | (.error fault, notices) => { result := .error fault, names, notices }
  | (.ok o, notices) =>
    let (result, names) := toBook style o names
    { result, names, notices }

end Phrasebook.Document
