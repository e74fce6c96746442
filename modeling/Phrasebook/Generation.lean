-- SUMMARY: From a document or a book to the text of a class, with warnings and counts.
import Phrasebook.Book.Document
import Phrasebook.Layout
import Phrasebook.Registry

/-!
# Generation

A generation either succeeds, with the laid-out text of the class, warnings and
some counts, or fails for a cause that it keeps.
-/

namespace Phrasebook

open Text

/-! ## Results -/

/-- What is told of a generated class. -/
structure Metadata where
  language : String
  extension : String
  className : Json
  defaultLocale : String
  localeCount : Nat
  keyCount : Nat
  missingTexts : Nat

/-- The metadata under the names by which they are shown. -/
def Metadata.fields (m : Metadata) : Json.Fields :=
  [("language", .str m.language),
   ("file_extension", .str m.extension),
   ("class_name", m.className),
   ("default_locale", .str m.defaultLocale),
   ("locale_count", .int m.localeCount),
   ("key_count", .int m.keyCount),
   ("missing_translations", .int m.missingTexts)]

/-- Why a generation failed. -/
inductive Failure where
  | document (fault : Document.Fault)
  | keyCase (value : Json)
  /-- The case style is none, and cannot even be shown. -/
  | unshownKeyCase (cause : Json.Unshown)
  | generation (fault : GenerationFault)

def Failure.message : Failure → String
  | .document fault => "Invalid resource document: " ++ fault.message
  | .keyCase value =>
    "Invalid resource document: " ++ value.quotedForm ++ " is not a valid NamingCase"
  | .unshownKeyCase cause => "Invalid resource document: " ++ cause.message
  | .generation fault => "Code generation failed: " ++ fault.message

inductive Generation where
  | success (code : String) (warnings : List Warning) (metadata : Metadata)
  | failure (cause : Failure)

namespace Generation

/-- Why there is no class, if there is none. -/
def failure? : Generation → Option Failure
  | .success _ _ _ => none
  | .failure cause => some cause

/-- Whether there is a class. -/
def succeeds (r : Generation) : Bool :=
  r.failure?.isNone

/-- The text of the class. Without a class it is empty. -/
def code : Generation → String
  | .success code _ _ => code
  | .failure _ => ""

/-- What there is to say of the book, if a class was made of it. -/
def warnings : Generation → List Warning
  | .success _ warnings _ => warnings
  | .failure _ => []

/-- What is told of the class, if there is one. -/
def metadata : Generation → Json.Fields
  | .success _ _ metadata => metadata.fields
  | .failure _ => []

end Generation

/-! ## From a book -/

namespace Generator

/-- A text in the layout that the settings ask for. -/
def format (settings : Settings) (code : String) : Except Misuse String :=
  match settings.lineEnding with
  | .str ending => .ok (Layout.formatString ending code)
  | v => .error (.operation v.kind "join")

def metadata (g : Generator) (b : Book) : Metadata where
  language := g.language
  extension := g.extension
  className := g.settings.className
  defaultLocale := b.defaultLocale.tag
  localeCount := b.locales.length
  keyCount := b.defaultTable.phrases.length
  missingTexts := b.missingCount

/-- The class for a book with its warnings, or the first fault. -/
def tryGenerate (g : Generator) (b : Book) (limits : Limits := {}) :
    Except GenerationFault (String × List Warning) := do
  let warnings ← (g.review b).mapError .misuse
  let code ← g.generate limits b
  let code ← (format g.settings code).mapError .misuse
  return (code, warnings)

/-- Generate the class for a book. A fault is reported as a notice too. -/
def run (g : Generator) (b : Book) (limits : Limits := {}) : Generation × List Notice :=
  match g.tryGenerate b limits with
  | .ok (code, warnings) => (.success code warnings (g.metadata b), [])
  | .error fault => (.failure (.generation fault), [.generationFailed fault.message])

end Generator

/-! ## From a document -/

/-- The style that a setting names. -/
def styleOf? (keyCase : Json) : Option Naming.Style :=
  match keyCase with
  | .str word => Naming.Style.ofWord? word
  | _ => none

namespace Generator

/-- The failure over a case style that is none. It shows the style, and nothing comes of one that is
nested too deeply for that. -/
def keyCaseFailure (keyCase : Json) (limit : Option Json.Limit) : Except Misuse Failure :=
  match keyCase.unshown? limit with
  | none => .ok (.keyCase keyCase)
  | some (.digits most) => .ok (.unshownKeyCase (.digits most))
  | some .depth => .error .depth

/-- Without a limit, the failure shows the style. -/
@[simp] theorem keyCaseFailure_none (keyCase : Json) :
    keyCaseFailure keyCase none = .ok (.keyCase keyCase) := by
  simp [keyCaseFailure]

/-- Generate the class for a document. The generator's allocator has to exist before the document
is looked at. -/
def runDocument (g : Generator) (document : Json) (limits : Limits := {}) :
    Except Misuse (Generation × List Notice) :=
  match styleOf? g.settings.keyCase with
  | none =>
    (keyCaseFailure g.settings.keyCase limits.keyCase).map fun cause => (.failure cause, [])
  | some style =>
    match g.names with
    | .error cause => .error cause
    | .ok names =>
      let conversion := Document.convert style (names.getD Dart.accessorNames) document
      match conversion.result with
      | .error fault => .ok (.failure (.document fault), conversion.notices)
      | .ok book =>
        let (result, notices) := g.run book limits
        .ok (result, conversion.notices ++ notices)

end Generator

namespace Registry

/-- Why nothing could be generated at all. -/
inductive RunFault where
  | registry (fault : Fault)
  | misuse (cause : Misuse)

/-- Generate the class for a document in a language. -/
def generate (r : Registry) (store : Store) (document : Json) (language : String)
    (config : Config) (limits : Limits := {}) : Except RunFault (Generation × List Notice) := do
  let g ← (r.create store language config).mapError .registry
  (g.runDocument document limits).mapError .misuse

end Registry

end Phrasebook
