-- SUMMARY: The generator of Dart classes: the source of the class for a book.
import Phrasebook.Book.Review
import Phrasebook.Dart.NameCheck
import Phrasebook.Dart.Options
import Phrasebook.Dart.Source
import Phrasebook.Template.Engine

/-!
# Generating Dart classes

The class has one accessor and one case for every phrase of the default table,
in its order. The accessors are documented by the texts of all tables.
-/

namespace Phrasebook.Dart

/-- Settings together with the options read from their custom section. -/
structure Generator where
  settings : Settings
  options : Options

/-- The fault of a documentation whose marker cannot be shown. -/
def markerFault (cause : Json.Unshown) : Template.EngineFault where
  name := some "doc_table.dart.j2"
  fault := .use (.unshown cause)

namespace Generator

/-- The generator for settings. -/
def ofSettings (settings : Settings) : Except Options.Fault Generator := do
  return { settings, options := ← Options.ofCustom settings.custom }

/-! ## Parts of the class -/

/-- Whether the accessors and the dispatch are documented. -/
def documented (g : Generator) : Bool :=
  g.settings.addComments.truthy

/-- The texts of a key in all tables of a book, the default one first. -/
def docTable (g : Generator) (b : Book) (p : Phrase) : DocTable where
  rows := b.tablesByTag.map fun t => ⟨t.locale.tag, (t.get? p.key).map Phrase.text⟩
  marker := g.options.missingMarker.display

def accessor (g : Generator) (b : Book) (p : Phrase) : Accessor where
  documentation := if g.documented then some (g.docTable b p) else none
  name := p.accessor
  shape := p.shape

/-- One accessor for each phrase of the default table. -/
def accessors (g : Generator) (b : Book) : List Accessor :=
  b.defaultTable.phrases.map (g.accessor b)

/-- One case for each phrase of the default table. -/
def dispatch (g : Generator) (b : Book) : Dispatch where
  documented := g.documented
  cases := b.defaultTable.phrases.map fun p => ⟨p.key, p.accessor, p.shape⟩

/-- The class for a book, its names unchecked. -/
def classSource (g : Generator) (b : Book) : ClassSource where
  name := g.settings.className.display
  lookupType := g.options.lookupType
  customLookupType := g.options.customLookupType
  delegateType := g.options.delegateType
  contextAccessor := g.options.contextAccessor
  locales := b.locales
  accessors := g.accessors b
  dispatch := g.dispatch b

/-! ## Generation -/

/-- The text of the class, if the names of the book can stand in it. -/
def generate (g : Generator) (b : Book) : Except NameFault String := do
  checkNames g.settings.className b
  return (g.classSource b).text

/-- Whether the marker stands in the documentation: a table has no phrase for a documented key. -/
def needsMarker (g : Generator) (b : Book) : Bool :=
  g.documented && b.defaultTable.phrases.any fun p =>
    b.tablesByTag.any fun t => (t.get? p.key).isNone

/-- Why the marker cannot be shown where it has to be, if it cannot. -/
def unshownMarker? (g : Generator) (b : Book) (limit : Option Json.Limit) : Option Json.Unshown := do
  let l ← limit
  if g.needsMarker b then g.options.missingMarker.unshown? l else none

variable {g : Generator} {b : Book} {limit : Option Json.Limit} {cause : Json.Unshown}

theorem needsMarker_iff : g.needsMarker b ↔
    g.documented ∧ ∃ p ∈ b.defaultTable.phrases, ∃ t ∈ b.tablesByTag, t.get? p.key = none := by
  simp [needsMarker]

theorem unshownMarker?_eq_none_iff :
    g.unshownMarker? b limit = none ↔
      (g.needsMarker b → g.options.missingMarker.unshown? limit = none) := by
  cases limit with
  | none => simp [unshownMarker?]
  | some l => cases hneeds : g.needsMarker b <;> simp [unshownMarker?, hneeds]

theorem unshownMarker?_eq_some_iff :
    g.unshownMarker? b limit = some cause ↔
      g.needsMarker b ∧ g.options.missingMarker.unshown? limit = some cause := by
  cases limit with
  | none => simp [unshownMarker?]
  | some l => cases hneeds : g.needsMarker b <;> simp [unshownMarker?, hneeds]

/-- What there is to say of the book and the class name. -/
def review (g : Generator) (b : Book) : Except Misuse (List Warning) :=
  match g.settings.className with
  | .str name => .ok (b.review ++ if isIdentifier name then [] else [.className name])
  | v => .error (.text v.kind)

/-- The allocator for the accessors of the class. -/
def names (g : Generator) : Except Misuse Naming.Allocator :=
  accessorNamesOf g.settings.className

/-- The settings in effect. -/
def info (g : Generator) : Json.Fields :=
  [("class_name", g.settings.className),
   ("lookup_type", .str g.options.lookupType),
   ("custom_lookup_type", .str g.options.customLookupType),
   ("delegate_type", .str g.options.delegateType),
   ("context_accessor", .bool g.options.contextAccessor),
   ("documentation_tables", g.settings.addComments)]

end Generator

/-- Overrides for a class without documentation and without the accessor by build context. -/
def plainOverrides (className : Json) : Json.Fields :=
  [("class_name", className),
   ("add_comments", .bool false),
   ("custom", .obj [("context_accessor", .bool false)])]

end Phrasebook.Dart
