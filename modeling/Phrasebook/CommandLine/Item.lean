-- SUMMARY: What the words of a command line say, in order: flags with their values, and operands.
import Phrasebook.CommandLine.Word

/-!
# Items

A flag that takes a value has it in its own word or in the next one, which has
to be an operand. A value of two hyphens in the flag's own word is dropped. The
letters after the short name of a flag without a value are short names
themselves. How operands count depends on the command.
-/

namespace Phrasebook.CommandLine

open Text

variable {α : Type}

inductive Item (α : Type) where
  /-- A flag and its value, if the flag takes one and has not lost it. -/
  | flag (flag : Flag α) (value : Option String)
  /-- An operand and the words that belong to it. -/
  | operand (word : String) (rest : List String)
  | unknown (word : String)
  | fault (fault : Fault)

/-! ## Flags -/

/-- The items of a word, and whether the word after it is the value of the last one. -/
abbrev Cluster (α : Type) := Except Fault (List (Item α) × Bool)

/-- A flag with nothing attached, before the operand that may be its value. -/
def bare (next : Option String) (f : Flag α) : Cluster α :=
  if f.argument.isExpected then
    match next with
    | some value => .ok ([.flag f (some value)], true)
    | none => .error (.missingValue f.label)
  else .ok ([.flag f none], false)

/-- The value that a text attached to a flag is. The separator is none. -/
def attachedValue (text : List Char) : Option String :=
  if text = ['-', '-'] then none else some (String.ofList text)

/-- A flag with a text attached. If it has a short name and takes no value, the text consists of
more short names, the last of which may have a value attached or after it. -/
def attachedTo (flags : List (Flag α)) (next : Option String) (f : Flag α) (short : Bool)
    (text : List Char) : Cluster α :=
  let unwanted : Cluster α := .error (.unwantedValue f.label (String.ofList text))
  if f.argument.isExpected then .ok ([.flag f (attachedValue text)], false)
  else if !short then unwanted
  else
    match text with
    | [] => unwanted
    | c :: rest =>
      match flagNamed? flags (String.ofList ['-', c]) with
      | none => unwanted
      | some g =>
        let more := match rest with
          | [] => bare next g
          | d :: rest => attachedTo flags next g true (d :: rest)
        more.map fun (items, taken) => (.flag f none :: items, taken)

/-- The items of a word that names a flag. -/
def flagItems (flags : List (Flag α)) (next : Option String) (f : Flag α) (name : String) :
    Option (List Char) → Cluster α
  | none => bare next f
  | some text => attachedTo flags next f (!("--".toList.isPrefixOf name.toList)) text

/-! ## Items -/

/-- What operands are to a command. -/
inductive Operands where
  | unknown
  /-- The first one counts, and the separator right before or after it. -/
  | single
  /-- The first one takes all words after it along. -/
  | command
  deriving DecidableEq, Repr

/-- The word, if it is an operand. -/
def Word.operand? (w : Word α) : Option String :=
  match w.role with
  | .operand => some w.text
  | _ => none

/-- The operands, from a word that is an operand or the separator, as items, and the number of
words after it that they include. -/
def operandItems (operands : Operands) (word : String) (isSeparator : Bool)
    (rest : List (Word α)) : List (Item α) × Operands × Nat :=
  match operands, isSeparator, rest with
  | .command, true, [] => ([.unknown word], .command, 0)
  | .command, _, rest => ([.operand word (rest.map Word.text)], .unknown, rest.length)
  | .single, true, [] => ([], .unknown, 0)
  | .single, true, next :: _ => ([.operand next.text []], .unknown, 1)
  | .single, false, rest =>
    let separated := match rest with
      | ⟨_, .separator⟩ :: _ => true
      | _ => false
    ([.operand word []], .unknown, if separated then 1 else 0)
  | .unknown, _, _ => ([.unknown word], .unknown, 0)

/-- What the words say. The first argument bounds their number. Nothing follows a fault. -/
def itemsFrom (flags : List (Flag α)) : Nat → Operands → List (Word α) → List (Item α)
  | 0, _, _ => []
  | _ + 1, _, [] => []
  | fuel + 1, operands, w :: rest =>
    let counted (isSeparator : Bool) :=
      let (items, operands, taken) := operandItems operands w.text isSeparator rest
      items ++ itemsFrom flags fuel operands (rest.drop taken)
    match w.role with
    | .operand => counted false
    | .separator => counted true
    | .unknown => .unknown w.text :: itemsFrom flags fuel operands rest
    | .flag f name attached =>
      match flagItems flags (rest.head?.bind Word.operand?) f name attached with
      | .error fault => [.fault fault]
      | .ok (items, taken) =>
        items ++ itemsFrom flags fuel operands (if taken then rest.drop 1 else rest)

/-- What the words of a command line say. -/
def items (flags : List (Flag α)) (operands : Operands) (line : List String) :
    Except Fault (List (Item α)) := do
  let words ← words flags line
  return itemsFrom flags words.length operands words

end Phrasebook.CommandLine
