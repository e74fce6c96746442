-- SUMMARY: Dart string literals in double quotes.

/-!
# String literals

A text becomes a literal by escaping the characters that would end it, begin an
interpolation or break the line.
-/

namespace Phrasebook.Dart

/-- A character as it stands in a literal. -/
def escapeChar (c : Char) : List Char :=
  match c with
  | '\\' => ['\\', '\\']
  | '"' => ['\\', '"']
  | '$' => ['\\', '$']
  | '\n' => ['\\', 'n']
  | '\r' => ['\\', 'r']
  | '\t' => ['\\', 't']
  | c => [c]

def escape (cs : List Char) : List Char :=
  cs.flatMap escapeChar

/-- The literal of a text. -/
def literalChars (cs : List Char) : List Char :=
  '"' :: (escape cs ++ ['"'])

/-- A text escaped for use inside a literal. -/
def escapeString (s : String) : String :=
  String.ofList (escape s.toList)

/-- The literal of a string. -/
def literal (s : String) : String :=
  String.ofList (literalChars s.toList)

end Phrasebook.Dart
