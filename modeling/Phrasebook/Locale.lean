-- SUMMARY: Locales and the reading of locale tags.
import Phrasebook.Text.Blank
import Phrasebook.Text.Case
import Phrasebook.Text.Digit
import Phrasebook.Text.Letter
import Phrasebook.Text.Quoted

/-!
# Locales

A locale is a language, possibly narrowed to a country and a script. Its tag
names language, script and country in this order, joined by underscores. Tags
are read more freely: hyphens and any letter case, an encoding after a point,
and a variant, which is dropped.
-/

namespace Phrasebook

open Text

structure Locale where
  language : String
  country : Option String := none
  script : Option String := none
  deriving DecidableEq, Repr

namespace Locale

/-- The subtag, unless it is empty. -/
def filled (subtag : Option String) : Option String :=
  subtag.filter (· != "")

/-- The tag of a locale. An empty subtag counts as an absent one. -/
def tag (l : Locale) : String :=
  joinStrings "_" (l.language :: (filled l.script).toList ++ (filled l.country).toList)

/-! ## Faults -/

/-- Why a tag names no locale. -/
inductive Reason where
  | empty
  /-- The language, in lower case, is not made of letters. -/
  | language (text : String)
  /-- Something is left after all subtags that a tag may have. -/
  | leftover (identifier : String)
  /-- The tag ends in a modifier, which follows an at sign. -/
  | modifier
  deriving DecidableEq, Repr

def Reason.message : Reason → String
  | .empty => "empty locale identifier"
  | .language text => "expected only letters, got " ++ quoted text
  | .leftover identifier => quoted identifier ++ " is not a valid locale identifier"
  | .modifier => "too many values to unpack (expected 4)"

structure Fault where
  tag : String
  reason : Reason
  deriving DecidableEq, Repr

def Fault.message (f : Fault) : String :=
  "Invalid locale tag " ++ quoted f.tag ++ ": " ++ f.reason.message

/-! ## Subtags -/

/-- A script is four letters. -/
def isScript (part : List Char) : Bool :=
  part.length == 4 && isWord part

/-- A country is two letters or three digits. -/
def isCountry (part : List Char) : Bool :=
  (part.length == 2 && isWord part) || (part.length == 3 && part.all isDigit)

/-- A variant is four characters that begin with a digit, or five or more that begin with a
letter. -/
def isVariant (part : List Char) : Bool :=
  match part with
  | [] => false
  | c :: _ => (part.length == 4 && isDigit c) || (5 ≤ part.length && isLetter c)

/-- The first part in the given case, if it passes the test, and the parts after it. -/
def takePart (test : List Char → Bool) (convert : List Char → List Char)
    (parts : List (List Char)) : Option (List Char) × List (List Char) :=
  match parts with
  | [] => (none, [])
  | part :: rest => if test part then (some (convert part), rest) else (none, part :: rest)

/-- The last part in upper case, if the first one passes as a variant, and the parts before it. -/
def takeVariant (parts : List (List Char)) : Option (List Char) × List (List Char) :=
  if parts.head?.any isVariant then (parts.getLast?.map toUpper, parts.dropLast)
  else (none, parts)

/-! ## Tags -/

/-- What a tag says: a locale and the variant that the locale does not keep. -/
structure Reading where
  locale : Locale
  variant : Option String := none
  deriving DecidableEq, Repr

/-- The tag without surrounding whitespace, with underscores for hyphens. -/
def normalize (tag : List Char) : List Char :=
  (trim isBlank tag).map fun c => if c = '-' then '_' else c

/-- Read the subtags before any modifier and encoding. -/
def ofParts (identifier : List Char) : Except Reason Reading :=
  match split '_' identifier with
  | [] => .error .empty
  | first :: rest =>
    let language := toLower first
    if isWord language then
      let (script, rest) := takePart isScript toTitle rest
      let (country, rest) := takePart isCountry toUpper rest
      let (variant, rest) := takeVariant rest
      match rest with
      | [] =>
        .ok {
          locale := {
            language := String.ofList language
            country := country.map String.ofList
            script := script.map String.ofList }
          variant := variant.map String.ofList }
      | _ :: _ => .error (.leftover (String.ofList identifier))
    else .error (.language (String.ofList language))

/-- Read a tag whose whitespace and hyphens are already replaced. -/
def ofNormalized (tag : List Char) : Except Reason Reading :=
  if tag.isEmpty then .error .empty
  else
    let identifier := (tag.takeWhile (· ≠ '@')).takeWhile (· ≠ '.')
    let modifier := (tag.dropWhile (· ≠ '@')).drop 1
    match ofParts identifier with
    | .error reason => .error reason
    | .ok reading => if modifier.isEmpty then .ok reading else .error .modifier

/-- Read a locale tag. -/
def parse (tag : String) : Except Fault Reading :=
  (ofNormalized (normalize tag.toList)).mapError fun reason => { tag, reason }

end Locale

end Phrasebook
