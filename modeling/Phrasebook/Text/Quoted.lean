-- SUMMARY: The quoted form in which messages show a text.
import Phrasebook.Text.Basic
import Phrasebook.Text.Printable

/-!
# Quoted text

A text is quoted in apostrophes, or in double quotes if it holds an apostrophe
and no double quote. The mark and the backslash are escaped, as is every
character that is not printable.
-/

namespace Phrasebook.Text

/-- The mark that encloses the quoted text. -/
def quoteMark (cs : List Char) : Char :=
  if cs.contains '\x27' && !cs.contains '"' then '"' else '\x27'

/-- The hexadecimal digits of `n`, filled up with zeros to `width`. -/
def hexDigits (width n : Nat) : List Char :=
  (Nat.toDigits 16 n).leftpad width '0'

/-- A character as it stands between the marks. -/
def quoteChar (mark c : Char) : List Char :=
  if c = mark || c = '\\' then ['\\', c]
  else if c = '\n' then ['\\', 'n']
  else if c = '\r' then ['\\', 'r']
  else if c = '\t' then ['\\', 't']
  else if isPrintable c then [c]
  else if c.toNat < 0x100 then '\\' :: 'x' :: hexDigits 2 c.toNat
  else if c.toNat < 0x10000 then '\\' :: 'u' :: hexDigits 4 c.toNat
  else '\\' :: 'U' :: hexDigits 8 c.toNat

/-- A text between quotation marks. -/
def quoted (s : String) : String :=
  let mark := quoteMark s.toList
  String.ofList (mark :: s.toList.flatMap (quoteChar mark) ++ [mark])

/-- The quoted texts between square brackets. -/
def quotedList (texts : List String) : String :=
  "[" ++ joinStrings ", " (texts.map quoted) ++ "]"

end Phrasebook.Text
