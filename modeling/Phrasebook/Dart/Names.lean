-- SUMMARY: The names Dart code can use: identifiers, reserved words, and the members of the class.
import Phrasebook.Json.Basic
import Phrasebook.Misuse
import Phrasebook.Naming.Allocator

/-!
# Names in Dart code

An accessor has to be an identifier that is not reserved and that no member of
the generated class bears already.
-/

namespace Phrasebook.Dart

/-- Reserved words and built-in identifiers. -/
def reservedWords : List String :=
  ["abstract", "as", "assert", "async", "await", "base", "break", "case", "catch", "class",
    "const", "continue", "covariant", "default", "deferred", "do", "dynamic", "else", "enum",
    "export", "extends", "extension", "external", "factory", "false", "final", "finally", "for",
    "Function", "get", "hide", "if", "implements", "import", "in", "interface", "is", "late",
    "library", "mixin", "new", "null", "on", "operator", "part", "required", "rethrow", "return",
    "sealed", "set", "show", "static", "super", "switch", "sync", "this", "throw", "true", "try",
    "typedef", "var", "void", "when", "while", "with", "yield"]

/-- What every generated class declares besides the accessors, and what it inherits. -/
def classMembers : List String :=
  ["_lookup", "locale", "currentLocale", "customLookup", "delegate", "of", "supportedLocales",
   "getString", "hashCode", "runtimeType", "toString", "noSuchMethod"]

/-! ## Identifiers -/

def isIdentifierStart (c : Char) : Bool :=
  c.isAlpha || c = '_' || c = '$'

def isIdentifierChar (c : Char) : Bool :=
  isIdentifierStart c || c.isDigit

/-- The characters without a line feed at their end. -/
def dropFinalBreak (cs : List Char) : List Char :=
  if cs.getLast? = some '\n' then cs.dropLast else cs

/-- Whether a name is an identifier. One line feed after it is let pass. -/
def isIdentifier (name : String) : Bool :=
  match name.toList with
  | [] => false
  | c :: cs => isIdentifierStart c && (dropFinalBreak cs).all isIdentifierChar

/-! ## Allocation -/

/-- An allocator for the accessors of a class without a name of its own. -/
def accessorNames : Naming.Allocator where
  reserved := reservedWords
  builtins := classMembers

/-- An allocator for the accessors of a class, none of which may bear the name of the class. -/
def accessorNamesFor (className : String) : Naming.Allocator :=
  if className = "" then accessorNames
  else { accessorNames with builtins := className :: classMembers }

/-- The allocator for the class name that settings give. A value that is no text is no name, and
a list or an object cannot be among the names at all. -/
def accessorNamesOf (className : Json) : Except Misuse Naming.Allocator :=
  if className.truthy then
    match className with
    | .str name => .ok (accessorNamesFor name)
    | .arr items => .error (.element (Json.arr items).kind)
    | .obj fields => .error (.element (Json.obj fields).kind)
    | _ => .ok accessorNames
  else .ok accessorNames

end Phrasebook.Dart
