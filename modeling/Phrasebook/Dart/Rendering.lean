-- SUMMARY: The class for a book put together by rendering templates, each with its own context.
import Phrasebook.Dart.Generator
import Phrasebook.Dart.Templates

/-!
# Rendering Dart classes

A class can be made by the templates of its parts. Each part is rendered with
what the template needs of the generator and the book, and the rendered parts
are in the context of the class itself. A part that cannot be rendered leaves no
class.
-/

namespace Phrasebook

/-- A text that may be missing, as contexts hold it. -/
def Json.ofText? : Option String → Json
  | some s => .str s
  | none => .null

/-- The subtags of a locale, as contexts hold it. -/
def Locale.toJson (l : Locale) : Json :=
  .arr [.str l.language, .ofText? l.country, .ofText? l.script]

/-- A phrase, as contexts hold it. -/
def Phrase.toJson (p : Phrase) : Json :=
  .obj [("key", .str p.key), ("escaped_key", .str p.accessor), ("value", .str p.text),
    ("placeholders", .arr (p.placeholders.map .str))]

namespace Dart.Generator

/-- Render a template of the directory. -/
def renderTemplate (name : String) (context : Json.Fields) (limit : Option Json.Limit := none) :
    Except Template.EngineFault String :=
  Templates.engine.render name context limit

/-! ## Contexts -/

def localesContext (b : Book) : Json.Fields :=
  [("locales", .arr (b.locales.map Locale.toJson))]

/-- What a table has for a key. -/
def rowContext (key : String) (t : Table) : Json :=
  .obj [("locale", .str t.locale.tag), ("translation", ((t.get? key).map Phrase.toJson).getD .null)]

def documentationContext (g : Generator) (b : Book) (p : Phrase) : Json.Fields :=
  [("rows", .arr (b.tablesByTag.map (rowContext p.key))),
   ("missing_marker", g.options.missingMarker)]

/-- The context of an accessor, given its rendered documentation. -/
def accessorContext (g : Generator) (b : Book) (p : Phrase) (documentation : Option String) :
    Json.Fields :=
  [("documentation", .ofText? documentation),
   ("signature", .str (g.accessor b p).signature),
   ("call", .str (g.accessor b p).call)]

def branchContext (c : Case) : Json :=
  .obj [("key", .str c.key), ("call", .str c.call)]

def dispatchContext (g : Generator) (b : Book) : Json.Fields :=
  [("branches", .arr ((g.dispatch b).cases.map branchContext)),
   ("documented", g.settings.addComments)]

/-- The context of the class, given its rendered parts. -/
def classContext (g : Generator) (locales : String) (accessors : List String) (dispatch : String) :
    Json.Fields :=
  [("class_name", g.settings.className),
   ("lookup_type", .str g.options.lookupType),
   ("custom_lookup_type", .str g.options.customLookupType),
   ("delegate_type", .str g.options.delegateType),
   ("context_accessor", .bool g.options.contextAccessor),
   ("supported_locales", .str locales),
   ("accessors", .arr (accessors.map .str)),
   ("get_string", .str dispatch)]

/-! ## Parts -/

def renderLocales (b : Book) (limit : Option Json.Limit := none) :
    Except Template.EngineFault String :=
  renderTemplate "supported_locales.dart.j2" (localesContext b) limit

def renderDocumentation (g : Generator) (b : Book) (p : Phrase)
    (limit : Option Json.Limit := none) : Except Template.EngineFault String :=
  renderTemplate "doc_table.dart.j2" (g.documentationContext b p) limit

def renderAccessor (g : Generator) (b : Book) (p : Phrase) (limit : Option Json.Limit := none) :
    Except Template.EngineFault String := do
  let documentation ←
    if g.documented then some <$> g.renderDocumentation b p limit else pure none
  renderTemplate "accessor.dart.j2" (g.accessorContext b p documentation) limit

def renderDispatch (g : Generator) (b : Book) (limit : Option Json.Limit := none) :
    Except Template.EngineFault String :=
  renderTemplate "get_string.dart.j2" (g.dispatchContext b) limit

/-! ## Class -/

/-- Render the class for a book, its names unchecked. -/
def renderClass (g : Generator) (b : Book) (limit : Option Json.Limit := none) :
    Except Template.EngineFault String := do
  let locales ← renderLocales b limit
  let accessors ← b.defaultTable.phrases.mapM (g.renderAccessor b · limit)
  let dispatch ← g.renderDispatch b limit
  let text ← renderTemplate "class.dart.j2" (g.classContext locales accessors dispatch) limit
  return text ++ "\n"

/-- Why no class is rendered for a book. -/
inductive RenderFault where
  | names (fault : NameFault)
  | template (fault : Template.EngineFault)

/-- Render the class for a book, if the names of the book can stand in it. -/
def generateRendered (g : Generator) (b : Book) (limit : Option Json.Limit := none) :
    Except RenderFault String := do
  (checkNames g.settings.className b).mapError .names
  (g.renderClass b limit).mapError .template

end Dart.Generator

end Phrasebook
