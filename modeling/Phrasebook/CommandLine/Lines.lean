-- SUMMARY: Lines of printed text: plain characters, not too wide.
import Phrasebook.CommandLine.Markup
import Phrasebook.Text.Wrap

/-!
# Printed lines

Printed lines hold no characters that move the cursor, have blanks up to the
next stop in place of tabs, and are broken where they are too wide.
-/

namespace Phrasebook.CommandLine

open Text

/-- Whether printing leaves a character out: the bell, the backspace, vertical tabs, form feeds and
carriage returns. -/
def isCursorControl (c : Char) : Bool :=
  let n := c.toNat
  n == 7 || n == 8 || n == 11 || n == 12 || n == 13

/-- The distance of the stops of tabs. -/
def tabWidth : Nat :=
  8

/-- The parts between tabs with blanks up to the next stop in place of the tabs, for text that
begins at a column. -/
def fillStops (column : Nat) : List (List Char) → List Char
  | [] => []
  | [part] => part
  | part :: next :: parts =>
    let part := part ++ [' ']
    let stop := column + columns part
    let fill := (tabWidth - stop % tabWidth) % tabWidth
    part ++ List.replicate fill ' ' ++ fillStops (stop + fill) (next :: parts)

/-- A text without what is not printed. -/
def plainText (s : String) : List Char :=
  (withoutTags s).filter (!isCursorControl ·)

/-- The lines of a text as they are, without what is not printed. -/
def plainLines (s : String) : List (List Char) :=
  (split '\n' (plainText s)).map fun line => fillStops 0 (split '\t' line)

/-- The lines in which a text is printed within some columns. -/
def linesWithin (wrapping : Wrapping) (width : Nat) (s : String) : List (List Char) :=
  (plainLines s).flatMap (wrap wrapping width)

/-- A text as it is printed within some columns, without the line feed after it. -/
def printable (width : Nat) (s : String) : String :=
  String.ofList (join ['\n'] (linesWithin .fold width s))

end Phrasebook.CommandLine
