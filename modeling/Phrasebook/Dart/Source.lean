-- SUMMARY: The parts of the generated class, and their text line by line.
import Phrasebook.Book.Basic
import Phrasebook.Dart.LocaleExpr

/-!
# Source of the class

Each part of the class is a value of its own: the documentation of an accessor,
the accessor, the list of locales, the function that finds a phrase by its key,
and the class around them. A part is written as a list of lines.
-/

namespace Phrasebook.Dart

open Text

/-- The text of lines. -/
def ofLines (lines : List String) : String :=
  joinStrings "\n" lines

/-! ## Documentation -/

/-- A row of a documentation table: a locale and its text, if it has one. -/
structure DocRow where
  tag : String
  text : Option String
  deriving DecidableEq, Repr

/-- The texts of a phrase in all locales, and what stands for a missing one. -/
structure DocTable where
  rows : List DocRow
  marker : String
  deriving DecidableEq, Repr

/-- What a row shows beside its locale: the literal of the text, or the marker. -/
def DocRow.cell (r : DocRow) (marker : String) : String :=
  match r.text with
  | some text => literal text
  | none => marker

def DocRow.lines (r : DocRow) (marker : String) : List String :=
  ["  ///   <tr>",
   "  ///     <td style=\"width:60px;\">" ++ r.tag ++ "</td>",
   "  ///     <td>" ++ r.cell marker ++ "</td>",
   "  ///   </tr>"]

def DocTable.lines (t : DocTable) : List String :=
  ["  ///",
   "  /// <table style=\"width:100%\">",
   "  ///   <tr>",
   "  ///     <th>Locale</th>",
   "  ///     <th>Translation</th>",
   "  ///   </tr>"]
    ++ t.rows.flatMap (·.lines t.marker)
    ++ ["  ///  </table>", "  ///"]

/-! ## Accessors -/

/-- The member of the class that gives a phrase. -/
structure Accessor where
  documentation : Option DocTable
  name : String
  shape : Shape
  deriving DecidableEq, Repr

namespace Accessor

/-- A getter for a plain phrase, a method for one with parameters. -/
def signature (a : Accessor) : String :=
  if a.shape.isParameterized then a.name ++ "(" ++ a.shape.parameterList "String" ++ ")"
  else "get " ++ a.name

/-- The access to the phrase in a lookup. -/
def call (a : Accessor) : String :=
  a.shape.call a.name a.shape.parameters

def lines (a : Accessor) : List String :=
  (match a.documentation with
    | some table => table.lines
    | none => [])
  ++ ["  String " ++ a.signature ++ " \x7b",
      "    return customLookup?." ++ a.call ++ " ?? _lookup." ++ a.call ++ ";",
      "  \x7d"]

end Accessor

/-! ## Locales -/

/-- The items of a list, one a line, with a comma after each but the last. -/
def listItems : List String → List String
  | [] => []
  | [item] => ["      " ++ item]
  | item :: items => ("      " ++ item ++ ",") :: listItems items

/-- The getter of the locales that the class supports. -/
def localesLines (locales : List Locale) : List String :=
  ["  static List<Locale> get supportedLocales \x7b",
   "    return const <Locale>["]
    ++ listItems (locales.map localeExpr)
    ++ ["    ];", "  \x7d"]

/-! ## Dispatch -/

/-- One case of the function that finds a phrase by its key. -/
structure Case where
  key : String
  name : String
  shape : Shape
  deriving DecidableEq, Repr

/-- The function that finds a phrase by its key. -/
structure Dispatch where
  documented : Bool
  cases : List Case
  deriving DecidableEq, Repr

namespace Case

/-- The arguments of the accessor, taken from the placeholders that the caller gives. -/
def arguments (c : Case) : List String :=
  c.shape.parameters.map fun name => "placeholders[" ++ literal name ++ "]!"

def call (c : Case) : String :=
  c.shape.call c.name c.arguments

def lines (c : Case) : List String :=
  ["      case " ++ literal c.key ++ ":",
   "        return " ++ c.call ++ ";"]

end Case

def Dispatch.lines (d : Dispatch) : List String :=
  (if d.documented then
    ["  /// Returns the translation for [key], or an empty string for unknown keys.",
     "  ///",
     "  /// Every placeholder the key declares must be present in [placeholders]."]
  else [])
  ++ ["  String getString(String key, [Map<String, String> placeholders = const \x7b\x7d]) \x7b",
      "    switch (key) \x7b"]
  ++ d.cases.flatMap Case.lines
  ++ ["    \x7d",
      "    return \"\";",
      "  \x7d"]

/-! ## Class -/

/-- A whole class. -/
structure ClassSource where
  name : String
  lookupType : String
  customLookupType : String
  delegateType : String
  contextAccessor : Bool
  locales : List Locale
  accessors : List Accessor
  dispatch : Dispatch
  deriving DecidableEq, Repr

namespace ClassSource

/-- The members that do not depend on any phrase. -/
def headLines (c : ClassSource) : List String :=
  ["class " ++ c.name ++ " \x7b",
   "  final " ++ c.lookupType ++ " _lookup;",
   "",
   "  " ++ c.name ++ "(this._lookup);",
   "",
   "  static Locale? locale;",
   "",
   "  static Locale? get currentLocale => locale;",
   "",
   "  /// add custom locale lookup which will be called first",
   "  static " ++ c.customLookupType ++ "? customLookup;",
   "",
   "  static const " ++ c.delegateType ++ " delegate = " ++ c.delegateType ++ "();"]

/-- The accessor that finds the class by its build context. -/
def contextLines (c : ClassSource) : List String :=
  if c.contextAccessor then
    ["",
     "  static " ++ c.name ++ " of(BuildContext context) =>",
     "      Localizations.of<" ++ c.name ++ ">(context, " ++ c.name ++ ")!;"]
  else []

def lines (c : ClassSource) : List String :=
  c.headLines ++ c.contextLines ++ [""]
    ++ localesLines c.locales ++ [""]
    ++ c.accessors.flatMap (fun a => a.lines ++ [""])
    ++ c.dispatch.lines ++ ["\x7d"]

/-- The text of the class, with a line feed after its last line. -/
def text (c : ClassSource) : String :=
  ofLines c.lines ++ "\n"

end ClassSource

end Phrasebook.Dart
