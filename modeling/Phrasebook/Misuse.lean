-- SUMMARY: Settings of a kind that an operation cannot work with.
import Phrasebook.Json.Basic

/-!
# Misused values

Settings are kept as they are read. An operation that needs a value of another
kind than it finds stops with a misuse, which names the kind it found.
-/

namespace Phrasebook

inductive Misuse where
  /-- A value of this kind does not have the operation. -/
  | operation (kind : Json.Kind) (name : String)
  /-- A value of this kind cannot be a member of a set. -/
  | element (kind : Json.Kind)
  /-- A value of this kind has no members to look for. -/
  | container (kind : Json.Kind)
  /-- A list or a text has no member under a name. -/
  | index (kind : Json.Kind)
  /-- A value of this kind stands where a text is matched. -/
  | text (kind : Json.Kind)
  /-- A value of this kind stands where pairs are listed. -/
  | pairs (kind : Json.Kind)
  /-- A value of this kind stands where a pair is. -/
  | pair (kind : Json.Kind)
  /-- A list of this many members stands where a pair is. -/
  | pairLength (length : Nat)
  /-- A value of this kind stands where a path is. -/
  | path (kind : Json.Kind)
  /-- There is no such setting. -/
  | setting (name : String)
  /-- An argument is given twice. -/
  | argument (name : String)
  /-- A value is nested too deeply to be named in a message. -/
  | depth
  deriving DecidableEq, Repr

namespace Misuse

/-- What is wrong: the kind of the value, its lack of an operation, its content, or its depth. -/
inductive Cause where
  | kind
  | operation
  | content
  | depth
  deriving DecidableEq, Repr

def cause : Misuse → Cause
  | .operation _ _ => .operation
  | .pairLength _ => .content
  | .depth => .depth
  | _ => .kind

def message : Misuse → String
  | .operation kind name => "'" ++ kind.word ++ "' object has no attribute '" ++ name ++ "'"
  | .element kind => "unhashable type: '" ++ kind.word ++ "'"
  | .container kind => "argument of type '" ++ kind.word ++ "' is not iterable"
  | .index .str => "string indices must be integers, not 'str'"
  | .index kind => kind.word ++ " indices must be integers or slices, not str"
  | .text kind => "expected string or bytes-like object, got '" ++ kind.word ++ "'"
  | .pairs kind => "'" ++ kind.word ++ "' object is not iterable"
  | .pair kind => "cannot convert an update member of type '" ++ kind.word ++ "' to a pair"
  | .pairLength length => "update member has length " ++ toString length ++ "; 2 is required"
  | .path kind => "expected a path, not '" ++ kind.word ++ "'"
  | .setting name => "unexpected setting '" ++ name ++ "'"
  | .argument name => "got multiple values for argument '" ++ name ++ "'"
  | .depth => "maximum recursion depth exceeded while getting the repr of an object"

end Misuse

end Phrasebook
