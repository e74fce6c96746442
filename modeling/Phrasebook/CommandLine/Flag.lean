-- SUMMARY: Flags of commands, and what can be wrong with their use.
import Phrasebook.Text.Quoted

/-!
# Flags

A flag has one or more names, of two hyphens and a word or of one hyphen and a
letter. It stands for itself or takes a value. What it means is up to the
command that it belongs to.
-/

namespace Phrasebook.CommandLine

open Text

/-- What has to come with a flag. -/
inductive Argument where
  | nothing
  /-- Any value, which help shows under a name. -/
  | value (shown : String)
  /-- One of some values. -/
  | choice (values : List String)
  deriving DecidableEq, Repr

def Argument.isExpected : Argument → Bool
  | .nothing => false
  | .value _ => true
  | .choice _ => true

/-- A flag that means an `α`. -/
structure Flag (α : Type) where
  means : α
  names : List String
  argument : Argument := .nothing
  help : String

/-- A flag as messages name it. -/
def Flag.label {α : Type} (f : Flag α) : String :=
  joinStrings "/" f.names

/-- The flag of a name. -/
def flagNamed? {α : Type} (flags : List (Flag α)) (name : String) : Option (Flag α) :=
  flags.find? (·.names.contains name)

/-- What is wrong with a command line. -/
inductive Fault where
  /-- A word begins the names of several flags. -/
  | ambiguous (word : String) (names : List String)
  | missingValue (flag : String)
  | unwantedValue (flag value : String)
  | badChoice (flag value : String) (choices : List String)
  | conflict (flag other : String)
  | unrecognized (words : List String)
  deriving DecidableEq, Repr

def Fault.message : Fault → String
  | .ambiguous word names =>
    "ambiguous option: " ++ word ++ " could match " ++ joinStrings ", " names
  | .missingValue flag => "argument " ++ flag ++ ": expected one argument"
  | .unwantedValue flag value =>
    "argument " ++ flag ++ ": ignored explicit argument " ++ quoted value
  | .badChoice flag value choices =>
    "argument " ++ flag ++ ": invalid choice: " ++ quoted value ++ " (choose from "
      ++ joinStrings ", " (choices.map quoted) ++ ")"
  | .conflict flag other => "argument " ++ flag ++ ": not allowed with argument " ++ other
  | .unrecognized words => "unrecognized arguments: " ++ joinStrings " " words

/-- The value that is given with a flag, if the flag admits it. -/
def Flag.checked {α : Type} (f : Flag α) (value : Option String) :
    Except Fault (Option String) :=
  match f.argument, value with
  | .choice values, some value =>
    if values.contains value then .ok (some value)
    else .error (.badChoice f.label value values)
  | _, value => .ok value

end Phrasebook.CommandLine
