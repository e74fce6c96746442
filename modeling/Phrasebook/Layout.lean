-- SUMMARY: The layout of generated text: no trailing blanks, no two blank lines in a row.
import Phrasebook.Text.Blank

/-!
# Layout

Every line loses the whitespace at its end, of several blank lines in a row one
stays, and the whole text ends in exactly one line ending.
-/

namespace Phrasebook.Layout

open Text

/-- The lines with the whitespace at their ends cut off. A blank line is left out if the line
before it, of which `afterBlank` tells, is blank. -/
def tidyLines (afterBlank : Bool) : List (List Char) → List (List Char)
  | [] => []
  | line :: lines =>
    let line := trimEnd isBlank line
    if line.isEmpty then
      if afterBlank then tidyLines true lines else [] :: tidyLines true lines
    else line :: tidyLines false lines

/-- Lay out a text, with the given line ending. -/
def format (ending text : List Char) : List Char :=
  trimEnd isBlank (join ending (tidyLines false (split '\n' text))) ++ ending

/-- Lay out a string. -/
def formatString (ending text : String) : String :=
  String.ofList (format ending.toList text.toList)

end Phrasebook.Layout
