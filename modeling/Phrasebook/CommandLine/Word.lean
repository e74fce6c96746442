-- SUMMARY: The words of a command line, told apart by the flags that are known.
import Phrasebook.CommandLine.Flag
import Phrasebook.Text.Digit

/-!
# Words

A word names a flag in full, by the beginning of a long name, or by a short name
with more text after it. An equals sign ends a long name and begins its value.
Numbers below zero and texts with a space in them are operands, other words that
begin with a hyphen are unknown. Two hyphens alone make all words after them
operands.
-/

namespace Phrasebook.CommandLine

open Text

/-- What a word is to a command. -/
inductive Role (α : Type) where
  | operand
  /-- The two hyphens before words that are all operands. -/
  | separator
  /-- A name of a flag, with a text that may be attached to it. -/
  | flag (flag : Flag α) (name : String) (attached : Option (List Char))
  | unknown

structure Word (α : Type) where
  text : String
  role : Role α

variable {α : Type}

/-! ## Telling words apart -/

/-- The text before the first equals sign, and the text after it if there is one. -/
def partAtEquals (cs : List Char) : List Char × Option (List Char) :=
  match cs.dropWhile (· ≠ '=') with
  | [] => (cs, none)
  | _ :: value => (cs.takeWhile (· ≠ '='), some value)

/-- Whether a text is a number below zero, which a line feed may follow. -/
def isNegativeNumber (cs : List Char) : Bool :=
  match cs with
  | '-' :: cs =>
    let cs := if cs.getLast? = some '\n' then cs.dropLast else cs
    match cs.dropWhile isDecimal with
    | [] => !cs.isEmpty
    | '.' :: places => !places.isEmpty && places.all isDecimal
    | _ => false
  | _ => false

/-- The flags that have a name with the given beginning, under these names. -/
def flagsFrom (flags : List (Flag α)) (start : List Char) : List (Flag α × String) :=
  flags.flatMap fun f => (f.names.filter fun name => start.isPrefixOf name.toList).map (f, ·)

/-- The flags that a word of a hyphen and more may mean, with what it attaches to them. -/
def readings (flags : List (Flag α)) (cs : List Char) :
    List (Flag α × String × Option (List Char)) :=
  match cs with
  | '-' :: '-' :: _ =>
    let (start, value) := partAtEquals cs
    (flagsFrom flags start).map fun (f, name) => (f, name, value)
  | '-' :: c :: text =>
    let name := String.ofList ['-', c]
    match flagNamed? flags name with
    | some f => [(f, name, some text)]
    | none => []
  | _ => []

/-- The flag that a word names in full, possibly with a value after an equals sign. -/
def named? (flags : List (Flag α)) (cs : List Char) :
    Option (Flag α × String × Option (List Char)) :=
  let exact (name : List Char) (attached : Option (List Char)) :=
    (flagNamed? flags (String.ofList name)).map (·, String.ofList name, attached)
  match exact cs none with
  | some reading => some reading
  | none =>
    match partAtEquals cs with
    | (name, some value) => exact name (some value)
    | (_, none) => none

/-- What a word before the separator is. -/
def roleOf (flags : List (Flag α)) (word : String) : Except Fault (Role α) :=
  match word.toList with
  | '-' :: c :: cs =>
    let cs := '-' :: c :: cs
    match named? flags cs with
    | some (f, name, attached) => .ok (.flag f name attached)
    | none =>
      match readings flags cs with
      | [(f, name, attached)] => .ok (.flag f name attached)
      | [] => .ok (if isNegativeNumber cs || cs.contains ' ' then .operand else .unknown)
      | several => .error (.ambiguous word (several.map (·.2.1)))
  | _ => .ok .operand

/-- The words of a command line. -/
def words (flags : List (Flag α)) : List String → Except Fault (List (Word α))
  | [] => .ok []
  | word :: rest =>
    if word = "--" then .ok (⟨word, .separator⟩ :: rest.map (⟨·, .operand⟩))
    else do
      let role ← roleOf flags word
      return ⟨word, role⟩ :: (← words flags rest)

end Phrasebook.CommandLine
