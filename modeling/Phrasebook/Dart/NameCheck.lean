-- SUMMARY: Whether the names in a table of phrases can stand side by side in the class.
import Phrasebook.Book.Basic
import Phrasebook.Dart.Names
import Phrasebook.Json.Display

/-!
# Checking names

Every accessor of the default table has to be a member of its own with a valid
name, and its placeholders have to be distinct parameters that hide none of
what the accessor's body reads.
-/

namespace Phrasebook.Dart

/-- A name that cannot be used, the first of a table. -/
inductive NameFault where
  | accessor (key name : String)
  | shadowing (key name className : String)
  | repeatedAccessor (first second name : String)
  | repeatedPlaceholder (key : String)
  | placeholder (key name : String)
  deriving DecidableEq, Repr

namespace NameFault

def message : NameFault → String
  | .accessor key name => "Key '" ++ key ++ "' has an invalid accessor name '" ++ name ++ "'"
  | .shadowing key name className =>
    "Accessor '" ++ name ++ "' for key '" ++ key ++ "' shadows " ++ className
      ++ " or one of its members"
  | .repeatedAccessor first second name =>
    "Keys '" ++ first ++ "' and '" ++ second ++ "' both map to accessor '" ++ name ++ "'"
  | .repeatedPlaceholder key => "Key '" ++ key ++ "' repeats a placeholder"
  | .placeholder key name =>
    "Placeholder '" ++ name ++ "' of key '" ++ key ++ "' is not a valid parameter name"

/-- Whether two members would be one. -/
def isCollision : NameFault → Bool
  | .shadowing _ _ _ => true
  | .repeatedAccessor _ _ _ => true
  | _ => false

end NameFault

/-- Whether the class bears a name. A class name that is no text equals none. -/
def isClassName (className : Json) (name : String) : Bool :=
  match className with
  | .str s => s == name
  | _ => false

/-- Whether a name can be a parameter. -/
def isParameterName (name : String) : Bool :=
  isIdentifier name && !reservedWords.contains name && !classMembers.contains name

def checkPlaceholders (p : Phrase) : Except NameFault Unit :=
  if p.placeholders.Nodup then
    match p.placeholders.find? (!isParameterName ·) with
    | some name => .error (.placeholder p.key name)
    | none => .ok ()
  else .error (.repeatedPlaceholder p.key)

/-- Check the phrases in order. `seen` pairs each accessor before them with its key. -/
def checkPhrases (className : Json) (seen : List (String × String)) :
    List Phrase → Except NameFault Unit
  | [] => .ok ()
  | p :: phrases =>
    let name := p.accessor
    if !isIdentifier name || reservedWords.contains name then .error (.accessor p.key name)
    else if classMembers.contains name || isClassName className name then
      .error (.shadowing p.key name className.display)
    else
      match seen.lookup name with
      | some first => .error (.repeatedAccessor first p.key name)
      | none =>
        match checkPlaceholders p with
        | .error fault => .error fault
        | .ok () => checkPhrases className ((name, p.key) :: seen) phrases

/-- Check the names of the default table. -/
def checkNames (className : Json) (b : Book) : Except NameFault Unit :=
  checkPhrases className [] b.defaultTable.phrases

end Phrasebook.Dart
