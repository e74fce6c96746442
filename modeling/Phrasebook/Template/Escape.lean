-- SUMMARY: The escapes in texts of template expressions.
import Phrasebook.Json.Parser
import Phrasebook.Text.Quoted

/-!
# Escapes

A backslash begins an escape: of a mark, of a control character, or of a
character by its octal or hexadecimal code. A backslash before any other
character stands for itself. Characters beyond ASCII are written as their
hexadecimal escapes before escapes are read.
-/

namespace Phrasebook.Template.Escape

open Text

/-- A character as it is written before escapes are read. -/
def asciiForm (c : Char) : List Char :=
  let n := c.toNat
  if n < 0x80 then [c]
  else if n < 0x100 then '\\' :: 'x' :: hexDigits 2 n
  else if n < 0x10000 then '\\' :: 'u' :: hexDigits 4 n
  else '\\' :: 'U' :: hexDigits 8 n

/-- The character that a letter stands for after a backslash. -/
def letter? (c : Char) : Option (List Char) :=
  match c with
  | '\n' => some []
  | '\\' => some ['\\']
  | '\x27' => some ['\x27']
  | '"' => some ['"']
  | 'a' => some ['\x07']
  | 'b' => some ['\x08']
  | 'f' => some ['\x0c']
  | 'n' => some ['\n']
  | 'r' => some ['\r']
  | 't' => some ['\t']
  | 'v' => some ['\x0b']
  | _ => none

def isOctal (c : Char) : Bool :=
  '0'.toNat ≤ c.toNat && c.toNat ≤ '7'.toNat

/-- The number that the digits make to a base. -/
def ofDigits (base : Nat) (digits : List Char) : Nat :=
  digits.foldl (fun n c => n * base + (Json.hexDigit? c).getD 0) 0

/-- The number of digits after a letter that begins a hexadecimal code, and the form of such an
escape. -/
def codeForm? (c : Char) : Option (Nat × String) :=
  match c with
  | 'x' => some (2, "\\xXX")
  | 'u' => some (4, "\\uXXXX")
  | 'U' => some (8, "\\UXXXXXXXX")
  | _ => none

/-- A code point as a character. -/
def character (n : Nat) : Except String Char :=
  if 0x10FFFF < n then .error "illegal Unicode character"
  else .ok (if 0xD800 ≤ n && n < 0xE000 then '\uFFFD' else Char.ofNat n)

/-- What an escape stands for, and the text after it, given the text after the backslash. -/
def read : List Char → Except String (List Char × List Char)
  | [] => .error "\\ at end of string"
  | c :: cs =>
    match letter? c, codeForm? c with
    | some plain, _ => .ok (plain, cs)
    | none, some (count, form) =>
      let digits := (cs.take count).takeWhile fun d => (Json.hexDigit? d).isSome
      if digits.length < count then .error ("truncated " ++ form ++ " escape")
      else do return ([← character (ofDigits 16 digits)], cs.drop count)
    | none, none =>
      if isOctal c then
        let digits := ((c :: cs).take 3).takeWhile isOctal
        do return ([← character (ofDigits 8 digits)], (c :: cs).drop digits.length)
      else if c = 'N' then .error "malformed \\N character escape"
      else .ok (['\\', c], cs)

/-- A text in ASCII without its escapes. The first argument bounds the number of steps. -/
def resolveFrom : Nat → List Char → Except String (List Char)
  | 0, cs => .ok cs
  | _ + 1, [] => .ok []
  | fuel + 1, c :: cs =>
    if c = '\\' then do
      let (plain, rest) ← read cs
      return plain ++ (← resolveFrom fuel rest)
    else do return c :: (← resolveFrom fuel cs)

/-- A text without its escapes, or what is wrong with one of these. -/
def resolve (cs : List Char) : Except String (List Char) :=
  let ascii := cs.flatMap asciiForm
  resolveFrom ascii.length ascii

end Phrasebook.Template.Escape
