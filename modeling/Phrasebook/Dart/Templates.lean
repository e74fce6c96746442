-- SUMMARY: The directory of templates that lay out the parts of a Dart class.
import Phrasebook.Dart.LocaleExpr
import Phrasebook.Template.Engine

/-!
# Templates of Dart classes

The parts of the class as templates, for those who render them with a context of
their own.
-/

namespace Phrasebook.Dart.Templates

/-- An output of what the context holds under a name. -/
private def shown (name : String) : Template.Node :=
  .output (.name name)

/-- An output of a text as a literal. -/
private def quotedText (e : Template.Expr) : Template.Node :=
  .output (.filter e "dart_string" [])

/-- The body for each item, under a name. -/
private def loopOver (name : String) (items : Template.Expr) (body : List Template.Node) :
    Template.Node :=
  .each (.name name) items (.constant (.bool true)) body []

def accessor : Template :=
  [.branch (.name "documentation") [shown "documentation", .text "\n"] [],
   .text "  String ", shown "signature", .text " \x7b\n    return customLookup?.", shown "call",
   .text " ?? _lookup.", shown "call", .text ";\n  \x7d"]

def supportedLocales : Template :=
  [.text "  static List<Locale> get supportedLocales \x7b\n    return const <Locale>[\n",
   loopOver "locale" (.name "locales")
    [.text "      ", .output (.filter (.name "locale") "dart_locale" []),
     .output (.choice (.negation (.member (.name "loop") "last")) (.constant (.str ","))
      (.constant (.str ""))),
     .text "\n"],
   .text "    ];\n  \x7d"]

/-- The row of one table in a documentation. -/
def tableRow : Template :=
  [.text "  ///   <tr>\n  ///     <td style=\"width:60px;\">",
   .output (.member (.name "row") "locale"),
   .text "</td>\n",
   .branch (.test (.member (.name "row") "translation") "none" [])
    [.text "  ///     <td>", shown "missing_marker", .text "</td>\n"]
    [.text "  ///     <td>",
     quotedText (.member (.member (.name "row") "translation") "value"),
     .text "</td>\n"],
   .text "  ///   </tr>\n"]

def docTable : Template :=
  [.text "  ///\n  /// <table style=\"width:100%\">\n  ///   <tr>\n",
   .text "  ///     <th>Locale</th>\n  ///     <th>Translation</th>\n  ///   </tr>\n",
   loopOver "row" (.name "rows") tableRow,
   .text "  ///  </table>\n  ///"]

def getString : Template :=
  [.branch (.name "documented")
    [.text "  /// Returns the translation for [key], or an empty string for unknown keys.\n",
     .text "  ///\n",
     .text "  /// Every placeholder the key declares must be present in [placeholders].\n"] [],
   .text "  String getString(String key, [Map<String, String> placeholders = const \x7b\x7d])",
   .text " \x7b\n",
   .text "    switch (key) \x7b\n",
   loopOver "branch" (.name "branches")
    [.text "      case ",
     quotedText (.member (.name "branch") "key"),
     .text ":\n        return ", .output (.member (.name "branch") "call"), .text ";\n"],
   .text "    \x7d\n    return \"\";\n  \x7d"]

def classText : Template :=
  [.text "class ", shown "class_name", .text " \x7b\n  final ", shown "lookup_type",
   .text " _lookup;\n\n  ", shown "class_name",
   .text "(this._lookup);\n\n  static Locale? locale;\n\n",
   .text "  static Locale? get currentLocale => locale;\n\n",
   .text "  /// add custom locale lookup which will be called first\n  static ",
   shown "custom_lookup_type", .text "? customLookup;\n\n  static const ", shown "delegate_type",
   .text " delegate = ", shown "delegate_type", .text "();\n",
   .branch (.name "context_accessor")
    [.text "\n  static ", shown "class_name",
     .text " of(BuildContext context) =>\n      Localizations.of<", shown "class_name",
     .text ">(context, ", shown "class_name", .text ")!;\n"] [],
   .text "\n", shown "supported_locales", .text "\n\n",
   loopOver "accessor" (.name "accessors") [shown "accessor", .text "\n\n"],
   shown "get_string", .text "\n\x7d"]

/-- The templates by their file names. -/
def directory : List (String × Template) :=
  [("accessor.dart.j2", accessor),
   ("class.dart.j2", classText),
   ("doc_table.dart.j2", docTable),
   ("get_string.dart.j2", getString),
   ("supported_locales.dart.j2", supportedLocales)]

/-! ## Filters -/

/-- A member of a list in a literal. A single character is escaped. -/
def literalPiece (s : String) : String :=
  if s.toList.length = 1 then escapeString s else s

/-- Whether a value can be looked up among characters. -/
def isElement (v : Json) : Bool :=
  match v with
  | .arr _ | .obj _ => false
  | _ => true

/-- The members of a list as parts of a literal. All of them have to be texts. -/
def literalPieces (items : List Json) : Template.Use (List String) :=
  match items.find? (!isElement ·) with
  | some v => .error (.type ("unhashable type: '" ++ v.kind.word ++ "'"))
  | none => items.zipIdx.mapM fun (item, i) =>
    match item with
    | .str s => .ok (literalPiece s)
    | v => .error (.type ("sequence item " ++ toString i ++ ": expected str instance, "
        ++ v.kind.word ++ " found"))

/-- The literal of a text. A list of texts counts as their concatenation, an object as that of its
keys. -/
def literalFilter : Template.Filter
  | .str s => .ok (literal s)
  | .arr items => do return "\"" ++ Text.joinStrings "" (← literalPieces items) ++ "\""
  | .obj fields => .ok ("\"" ++ Text.joinStrings "" (fields.map (literalPiece ·.1)) ++ "\"")
  | v => .error (.type ("'" ++ v.kind.word ++ "' object is not iterable"))

/-- The literal of a subtag, unless it counts as absent. -/
def subtagLiteral (v : Json) : Template.Use (Option String) :=
  if v.truthy then some <$> literalFilter v else .ok none

/-- The expression of a locale, given a list of its language, country and script. The last two may
be left out. -/
def localeFilter : Template.Filter := fun v =>
  let parts : List Json := match v with
    | .arr items => items
    | .str s => s.toList.map fun c => .str (String.singleton c)
    | _ => []
  let expression (language country script : Json) : Template.Use String := do
    let language ← literalFilter language
    let script ← subtagLiteral script
    let country ← subtagLiteral country
    return exprOfLiterals language country script
  match parts with
  | [language] => expression language .null .null
  | [language, country] => expression language country .null
  | [language, country, script] => expression language country script
  | _ => .error (.content "not a locale")

def filters : List (String × Template.Filter) :=
  [("dart_string", literalFilter), ("dart_locale", localeFilter)]

/-- The engine over the directory. -/
def engine : Template.Engine where
  loader := .directory directory
  filters := filters

end Phrasebook.Dart.Templates
