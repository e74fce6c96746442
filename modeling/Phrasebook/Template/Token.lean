-- SUMMARY: The tokens of templates, and what can be wrong with a template's source.
import Phrasebook.Binary64
import Phrasebook.Text.Quoted

/-!
# Tokens

Tokens are the pieces of plain text, the beginnings and ends of outputs and
tags, and the names, signs, texts and numbers inside these. A source that is no
template has a fault, whose message names tokens by descriptions.
-/

namespace Phrasebook.Template

open Text

/-! ## Tokens -/

inductive Lexeme where
  | data (s : String)
  | outputBegin
  | outputEnd
  | tagBegin
  | tagEnd
  | name (s : String)
  | text (s : String)
  | integer (n : Nat)
  | decimal (x : Binary64)
  | sign (s : String)
  deriving DecidableEq, Repr

/-- A lexeme and the line where it begins. -/
structure Token where
  lexeme : Lexeme
  line : Nat
  deriving DecidableEq, Repr

/-- A lexeme as messages name it. -/
def Lexeme.description : Lexeme → String
  | .data _ => "template data / text"
  | .outputBegin => "begin of print statement"
  | .outputEnd => "end of print statement"
  | .tagBegin => "begin of statement block"
  | .tagEnd => "end of statement block"
  | .name s => s
  | .text _ => "string"
  | .integer _ => "integer"
  | .decimal _ => "float"
  | .sign s => s

/-- What messages name where the source has come to its end. -/
def endDescription : String :=
  "end of template"

/-! ## Faults -/

/-- The tags that are open: their names, and the names of those that can end each of them. The
innermost comes first. -/
structure Nesting where
  names : List String := []
  ends : List (List String) := []
  deriving DecidableEq, Repr

/-- Why a source is no template. -/
inductive Malformed where
  | character (c : Char) (offset : Nat)
  /-- A closing bracket where another one, or none, is due. -/
  | bracket (found : Char) (expected : Option Char)
  | openComment
  | openRaw
  | identifier
  /-- An escape in a text. -/
  | escape (reason : String)
  /-- Something is found, or else the end, where something else is due. -/
  | expected (description : String) (found : Option String)
  | unexpected (found : String)
  | noExpression (found : String)
  | noMember
  | noTag
  /-- A tag that is not known, or else the end, inside tags that are open. -/
  | nesting (tag : Option String) (around : Nesting)
  /-- Items cannot be bound to such an expression. -/
  | target (kind : String)
  | loopTarget
  | chainedTests
  | arguments
  deriving DecidableEq, Repr

/-- What is wrong with the nesting of tags. -/
def nestingMessage (tag : Option String) (around : Nesting) : String :=
  let start := match tag with
    | some name => ["Encountered unknown tag " ++ quoted name ++ "."]
    | none => ["Unexpected end of template."]
  let due := match around.ends with
    | [] => []
    | innermost :: _ =>
      let names := joinStrings " or " (innermost.map quoted)
      if tag.any fun name => around.ends.any (·.contains name) then
        ["You probably made a nesting mistake. Jinja is expecting this tag, "
          ++ "but currently looking for " ++ names ++ "."]
      else ["Jinja was looking for the following tags: " ++ names ++ "."]
  let innermost := match around.names with
    | [] => []
    | name :: _ => ["The innermost block that needs to be closed is " ++ quoted name ++ "."]
  joinStrings " " (start ++ due ++ innermost)

def Malformed.message : Malformed → String
  | .character c offset =>
    "unexpected char " ++ quoted (String.singleton c) ++ " at " ++ toString offset
  | .bracket found none => "unexpected '" ++ String.singleton found ++ "'"
  | .bracket found (some due) =>
    "unexpected '" ++ String.singleton found ++ "', expected '" ++ String.singleton due ++ "'"
  | .openComment => "Missing end of comment tag"
  | .openRaw => "Missing end of raw directive"
  | .identifier => "Invalid character in identifier"
  | .escape reason => reason
  | .expected description (some found) =>
    "expected token " ++ quoted description ++ ", got " ++ quoted found
  | .expected description none =>
    "unexpected end of template, expected " ++ quoted description ++ "."
  | .unexpected found => "unexpected " ++ quoted found
  | .noExpression found => "Expected an expression, got " ++ quoted found
  | .noMember => "expected name or number"
  | .noTag => "tag name expected"
  | .nesting tag around => nestingMessage tag around
  | .target kind => "can't assign to " ++ quoted kind
  | .loopTarget => "Can't assign to special loop variable in for-loop target"
  | .chainedTests => "You cannot chain multiple tests with is"
  | .arguments => "invalid syntax for function call expression"

end Phrasebook.Template
