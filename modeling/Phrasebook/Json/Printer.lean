-- SUMMARY: Writing JSON text, on one line or indented.
import Phrasebook.Json.Basic
import Phrasebook.Text.Quoted

/-!
# Writing JSON

Only what JSON requires is escaped: the quote, the backslash and the control
characters below U+0020.
-/

namespace Phrasebook.Json

open Text

/-- A character as it stands in a string. -/
def escapeChar (c : Char) : List Char :=
  match c with
  | '"' => ['\\', '"']
  | '\\' => ['\\', '\\']
  | '\n' => ['\\', 'n']
  | '\r' => ['\\', 'r']
  | '\t' => ['\\', 't']
  | '\x08' => ['\\', 'b']
  | '\x0c' => ['\\', 'f']
  | c => if c.toNat < 0x20 then '\\' :: 'u' :: hexDigits 4 c.toNat else [c]

/-- A text as a JSON string. -/
def stringText (s : String) : String :=
  String.ofList ('"' :: s.toList.flatMap escapeChar ++ ['"'])

/-- A value that is neither a list nor an object. -/
def scalarText : Json → String
  | .null => "null"
  | .bool true => "true"
  | .bool false => "false"
  | .int i => toString i
  | .float x => x.render "Infinity" "NaN"
  | .str s => stringText s
  | .arr _ => "[]"
  | .obj _ => "\x7b\x7d"

/-! ## On one line -/

mutual

/-- A value without any space between its tokens. -/
def compact : Json → String
  | .arr items => "[" ++ joinStrings "," (compactItems items) ++ "]"
  | .obj fields => "\x7b" ++ joinStrings "," (compactFields fields) ++ "\x7d"
  | v => scalarText v

def compactItems : List Json → List String
  | [] => []
  | item :: items => compact item :: compactItems items

def compactFields : List (String × Json) → List String
  | [] => []
  | (key, value) :: fields => (stringText key ++ ":" ++ compact value) :: compactFields fields

end

/-! ## Indented -/

/-- A line break and the indentation of a nesting depth, two spaces a level. -/
def lineBreak (depth : Nat) : String :=
  String.ofList ('\n' :: List.replicate (2 * depth) ' ')

mutual

/-- A value with each item and field on a line of its own. -/
def prettyAt (depth : Nat) : Json → String
  | .arr [] => "[]"
  | .arr (item :: items) =>
    "[" ++ joinStrings "," (prettyItems (depth + 1) (item :: items)) ++ lineBreak depth ++ "]"
  | .obj [] => "\x7b\x7d"
  | .obj (field :: fields) =>
    "\x7b" ++ joinStrings "," (prettyFields (depth + 1) (field :: fields)) ++ lineBreak depth
      ++ "\x7d"
  | v => scalarText v

def prettyItems (depth : Nat) : List Json → List String
  | [] => []
  | item :: items => (lineBreak depth ++ prettyAt depth item) :: prettyItems depth items

def prettyFields (depth : Nat) : List (String × Json) → List String
  | [] => []
  | (key, value) :: fields =>
    (lineBreak depth ++ stringText key ++ ": " ++ prettyAt depth value)
      :: prettyFields depth fields

end

/-- A value laid out over lines. -/
def pretty (v : Json) : String :=
  prettyAt 0 v

end Phrasebook.Json
