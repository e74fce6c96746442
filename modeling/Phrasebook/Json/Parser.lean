-- SUMMARY: Reading JSON text, with the place and reason of every fault.
import Phrasebook.Json.Basic

/-!
# Reading JSON

The grammar is that of JSON with two liberties: `NaN`, `Infinity` and
`-Infinity` are numbers, and a key may stand more than once in an object, where
the last value wins at the place of the first. A fault names the first
character at which the text stops being a beginning of some JSON text.
-/

namespace Phrasebook.Json

/-! ## Faults -/

/-- Why a text is not JSON. -/
inductive Reason where
  | value
  | key
  | colon
  | comma
  | extraData
  | openString
  | controlCharacter
  | escape
  | unicodeEscape
  | byteOrderMark
  deriving DecidableEq, Repr

def Reason.message : Reason → String
  | .value => "Expecting value"
  | .key => "Expecting property name enclosed in double quotes"
  | .colon => "Expecting ':' delimiter"
  | .comma => "Expecting ',' delimiter"
  | .extraData => "Extra data"
  | .openString => "Unterminated string starting at"
  | .controlCharacter => "Invalid control character at"
  | .escape => "Invalid \\escape"
  | .unicodeEscape => "Invalid \\uXXXX escape"
  | .byteOrderMark => "Unexpected UTF-8 BOM (decode using utf-8-sig)"

/-- A fault at a character, given by its line and column from one and its offset from zero. -/
structure Fault where
  reason : Reason
  line : Nat
  column : Nat
  offset : Nat
  deriving DecidableEq, Repr

def Fault.message (f : Fault) : String :=
  f.reason.message ++ ": line " ++ toString f.line ++ " column " ++ toString f.column
    ++ " (char " ++ toString f.offset ++ ")"

/-- The fault at the given offset of a text. -/
def Fault.at (text : List Char) (reason : Reason) (offset : Nat) : Fault :=
  let before := text.take offset
  { reason, offset
    line := before.count '\n' + 1
    column := (before.reverse.takeWhile (· ≠ '\n')).length + 1 }

/-- A limit that a text goes beyond. -/
inductive Excess where
  /-- An integer has too many digits. -/
  | digits
  /-- Lists and objects are nested too deeply, the last of them of a kind. -/
  | depth (kind : Kind)
  deriving DecidableEq, Repr

def Excess.message : Excess → String
  | .digits => "Exceeds the limit (4300 digits) for integer string conversion"
  | .depth .obj =>
    "maximum recursion depth exceeded while decoding a JSON object from a unicode string"
  | .depth _ =>
    "maximum recursion depth exceeded while decoding a JSON array from a unicode string"

/-- Why a text cannot be read: it is not JSON, or it goes beyond a limit. -/
inductive Obstacle where
  | fault (fault : Fault)
  | excess (excess : Excess)
  deriving DecidableEq, Repr

/-- The greatest number of digits of an integer. -/
def maxDigits : Nat :=
  4300

/-- How deeply lists and objects can be nested. -/
def maxDepth : Nat :=
  985

/-! ## Tokens -/

/-- Where reading ends early. -/
inductive Stop where
  /-- A fault, with as many characters left. -/
  | fault (reason : Reason) (left : Nat)
  | excess (excess : Excess)
  deriving DecidableEq, Repr

/-- What a reader returns: a value and the rest of the text. -/
abbrev Reading (α : Type) := Except Stop (α × List Char)

def isSpace (c : Char) : Bool :=
  c = ' ' || c = '\t' || c = '\n' || c = '\r'

def skipSpace (cs : List Char) : List Char :=
  cs.dropWhile isSpace

/-- The value of a hexadecimal digit. -/
def hexDigit? (c : Char) : Option Nat :=
  if '0'.toNat ≤ c.toNat && c.toNat ≤ '9'.toNat then some (c.toNat - '0'.toNat)
  else if 'a'.toNat ≤ c.toNat && c.toNat ≤ 'f'.toNat then some (c.toNat - 'a'.toNat + 10)
  else if 'A'.toNat ≤ c.toNat && c.toNat ≤ 'F'.toNat then some (c.toNat - 'A'.toNat + 10)
  else none

/-- The value of four hexadecimal digits. -/
def hexQuad? (a b c d : Char) : Option Nat := do
  let a ← hexDigit? a
  let b ← hexDigit? b
  let c ← hexDigit? c
  let d ← hexDigit? d
  return ((a * 16 + b) * 16 + c) * 16 + d

/-- The code point of a one-letter escape. -/
def escape? (c : Char) : Option Nat :=
  match c with
  | '"' => some 0x22
  | '\\' => some 0x5C
  | '/' => some 0x2F
  | 'b' => some 0x08
  | 'f' => some 0x0C
  | 'n' => some 0x0A
  | 'r' => some 0x0D
  | 't' => some 0x09
  | _ => none

/-- The code units up to the closing quote. `start` characters are left at the opening one. -/
def units (start : Nat) : List Char → Reading (List Nat)
  | [] => .error (.fault .openString start)
  | c :: cs =>
    if c = '"' then .ok ([], cs)
    else if c = '\\' then
      match cs with
      | [] => .error (.fault .openString start)
      | 'u' :: w :: x :: y :: z :: rest =>
        if rest.isEmpty then .error (.fault .unicodeEscape cs.length)
        else
          match hexQuad? w x y z with
          | none => .error (.fault .unicodeEscape cs.length)
          | some u => (units start rest).map fun (us, tail) => (u :: us, tail)
      | e :: rest =>
        if e = 'u' then .error (.fault .unicodeEscape cs.length)
        else
          match escape? e with
          | none => .error (.fault .escape (cs.length + 1))
          | some u => (units start rest).map fun (us, tail) => (u :: us, tail)
    else if c.toNat < 0x20 then .error (.fault .controlCharacter (cs.length + 1))
    else (units start cs).map fun (us, tail) => (c.toNat :: us, tail)

/-- Whether a code point is a surrogate, which is no character. -/
def isSurrogate (u : Nat) : Bool :=
  0xD800 ≤ u && u < 0xE000

/-- The code points of code units: two surrogates that make one are one, and a lone one stays. -/
def codePoints : List Nat → List Nat
  | [] => []
  | [u] => [u]
  | u :: v :: us =>
    if 0xD800 ≤ u && u < 0xDC00 && 0xDC00 ≤ v && v < 0xE000 then
      (0x10000 + (u - 0xD800) * 0x400 + (v - 0xDC00)) :: codePoints us
    else u :: codePoints (v :: us)

/-- The characters of code units. A string is made of characters here, so a lone surrogate is
replaced. -/
def ofUnits (us : List Nat) : List Char :=
  (codePoints us).map fun u => if isSurrogate u then '\uFFFD' else Char.ofNat u

/-- The string whose opening quote has just been read. -/
def string (start : Nat) (cs : List Char) : Reading String :=
  (units start cs).map fun (us, rest) => (String.ofList (ofUnits us), rest)

def natOfDigits (cs : List Char) : Nat :=
  cs.foldl (fun n c => n * 10 + (c.toNat - '0'.toNat)) 0

/-- The digits of a number's integer part: a single zero, or digits that do not start with one. -/
def wholeDigits (cs : List Char) : List Char × List Char :=
  match cs with
  | '0' :: rest => (['0'], rest)
  | _ => (cs.takeWhile Char.isDigit, cs.dropWhile Char.isDigit)

/-- The digits after a decimal point, if a point and a digit come first. -/
def fraction? (cs : List Char) : Option (List Char × List Char) :=
  match cs with
  | '.' :: rest =>
    let digits := rest.takeWhile Char.isDigit
    if digits.isEmpty then none else some (digits, rest.dropWhile Char.isDigit)
  | _ => none

/-- The value of an exponent, if one comes first. -/
def exponent? (cs : List Char) : Option (Int × List Char) :=
  match cs with
  | [] => none
  | e :: rest =>
    if e = 'e' || e = 'E' then
      let (negative, rest) := match rest with
        | '-' :: tail => (true, tail)
        | '+' :: tail => (false, tail)
        | _ => (false, rest)
      let digits := rest.takeWhile Char.isDigit
      if digits.isEmpty then none
      else
        let n : Int := natOfDigits digits
        some (if negative then -n else n, rest.dropWhile Char.isDigit)
    else none

/-- A number. -/
def number (cs : List Char) : Reading Json :=
  let (negative, body) := match cs with
    | '-' :: rest => (true, rest)
    | _ => (false, cs)
  let (whole, rest) := wholeDigits body
  if whole.isEmpty then .error (.fault .value cs.length)
  else
    match fraction? rest, exponent? rest with
    | none, none =>
      if maxDigits < whole.length then .error (.excess .digits)
      else
        let n : Int := natOfDigits whole
        .ok (.int (if negative then -n else n), rest)
    | none, some (e, rest) =>
      .ok (.float (Binary64.ofDecimal negative (natOfDigits whole) e), rest)
    | some (decimals, rest), _ =>
      let digits := natOfDigits (whole ++ decimals)
      match exponent? rest with
      | none => .ok (.float (Binary64.ofDecimal negative digits (-decimals.length)), rest)
      | some (e, rest) =>
        .ok (.float (Binary64.ofDecimal negative digits (e - decimals.length)), rest)

/-- The words that are values. -/
def words : List (List Char × Json) :=
  [("null".toList, .null), ("true".toList, .bool true), ("false".toList, .bool false),
   ("NaN".toList, .float .nan), ("Infinity".toList, .float (.infinite false)),
   ("-Infinity".toList, .float (.infinite true))]

/-- A word or a number. -/
def scalar (cs : List Char) : Reading Json :=
  match words.find? (·.1.isPrefixOf cs) with
  | some (word, value) => .ok (value, cs.drop word.length)
  | none => number cs

/-! ## Values -/

-- The first argument bounds the calls; two for every character of the text are always enough. The
-- second one is the number of lists and objects that may still be opened inside each other.
mutual

def value : Nat → (depth : Nat) → List Char → Reading Json
  | 0, _, cs => .error (.fault .value cs.length)
  | fuel + 1, depth, cs =>
    match cs, depth with
    | '"' :: rest, _ => (string cs.length rest).map fun (s, tail) => (.str s, tail)
    | '[' :: _, 0 => .error (.excess (.depth .arr))
    | '[' :: rest, depth + 1 =>
      match skipSpace rest with
      | ']' :: tail => .ok (.arr [], tail)
      | rest => (items fuel depth rest).map fun (values, tail) => (.arr values, tail)
    | '\x7b' :: _, 0 => .error (.excess (.depth .obj))
    | '\x7b' :: rest, depth + 1 =>
      match skipSpace rest with
      | '\x7d' :: tail => .ok (.obj [], tail)
      | rest =>
        (members fuel depth rest).map fun (fields, tail) => (.obj (Fields.ofMembers fields), tail)
    | _, _ => scalar cs

/-- One or more values up to the closing bracket. -/
def items : Nat → (depth : Nat) → List Char → Reading (List Json)
  | 0, _, cs => .error (.fault .value cs.length)
  | fuel + 1, depth, cs =>
    match value fuel depth cs with
    | .error fault => .error fault
    | .ok (item, rest) =>
      match skipSpace rest with
      | ']' :: tail => .ok ([item], tail)
      | ',' :: tail =>
        (items fuel depth (skipSpace tail)).map fun (more, tail) => (item :: more, tail)
      | rest => .error (.fault .comma rest.length)

/-- One or more members up to the closing brace. -/
def members : Nat → (depth : Nat) → List Char → Reading (List (String × Json))
  | 0, _, cs => .error (.fault .key cs.length)
  | fuel + 1, depth, cs =>
    match cs with
    | '"' :: rest =>
      match string cs.length rest with
      | .error fault => .error fault
      | .ok (key, rest) =>
        match skipSpace rest with
        | ':' :: rest =>
          match value fuel depth (skipSpace rest) with
          | .error fault => .error fault
          | .ok (item, rest) =>
            match skipSpace rest with
            | '\x7d' :: tail => .ok ([(key, item)], tail)
            | ',' :: tail =>
              (members fuel depth (skipSpace tail)).map fun (more, tail) =>
                ((key, item) :: more, tail)
            | rest => .error (.fault .comma rest.length)
        | rest => .error (.fault .colon rest.length)
    | _ => .error (.fault .key cs.length)

end

/-- The value of a whole text. -/
def document (cs : List Char) : Except Stop Json :=
  if cs.head? = some '\uFEFF' then .error (.fault .byteOrderMark cs.length)
  else
    match value (2 * cs.length + 2) maxDepth (skipSpace cs) with
    | .error stop => .error stop
    | .ok (v, rest) =>
      match skipSpace rest with
      | [] => .ok v
      | rest => .error (.fault .extraData rest.length)

/-- What keeps a text from being read that reading stops at. -/
def Stop.obstacle (text : List Char) : Stop → Obstacle
  | .fault reason left => .fault (Fault.at text reason (text.length - left))
  | .excess e => .excess e

/-- Read a JSON text. -/
def parse (text : String) : Except Obstacle Json :=
  (document text.toList).mapError (Stop.obstacle text.toList)

end Phrasebook.Json
