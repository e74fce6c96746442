-- SUMMARY: Lines of a limited width: breaking between words, and inside words that are too long.
import Phrasebook.Text.Blank
import Phrasebook.Text.Width

/-!
# Wrapping

A line is filled with words as long as they fit, the blanks around a word
belonging to it. A word that is wider than a line starts on a line of its own,
and either goes on in the next line or is cut off. Blanks that reach over the
end of a line are dropped.
-/

namespace Phrasebook.Text

/-- How a text that is too wide for a line is fitted. -/
inductive Wrapping where
  /-- Words that are too wide go on in the next line. -/
  | fold
  /-- Words that are too wide are cut off, with an ellipsis in their place. -/
  | cut
  /-- The text stays on one line and is cut off. -/
  | never
  deriving DecidableEq, Repr

/-! ## Words -/

/-- The first word of a text with the blanks around it, and the rest. There is none in a text of
blanks. -/
def firstWord? (cs : List Char) : Option (List Char × List Char) :=
  let fromInk := cs.dropWhile isBlank
  if fromInk.isEmpty then none
  else
    let afterInk := fromInk.dropWhile (!isBlank ·)
    let word := cs.takeWhile isBlank ++ fromInk.takeWhile (!isBlank ·) ++ afterInk.takeWhile isBlank
    some (word, afterInk.dropWhile isBlank)

/-- The words of a text. The first argument bounds their number. -/
def wordsFrom : Nat → List Char → List (List Char)
  | 0, _ => []
  | fuel + 1, cs =>
    match firstWord? cs with
    | none => []
    | some (word, rest) => word :: wordsFrom fuel rest

/-- The columns of a word without the blanks after it. -/
def inkColumns (word : List Char) : Nat :=
  columns (trimEnd isBlank word)

/-! ## Cutting -/

/-- Graphemes cut into pieces of at most `width` columns, after a piece with some columns. -/
def chopAfter (width : Nat) (piece : List Char) (column : Nat) : List Grapheme → List (List Char)
  | [] => if column = 0 then [] else [piece]
  | g :: gs =>
    if width < column + g.width then piece :: chopAfter width g.chars g.width gs
    else chopAfter width (piece ++ g.chars) (column + g.width) gs

/-- A text cut into pieces of at most `width` columns. -/
def chop (width : Nat) (cs : List Char) : List (List Char) :=
  chopAfter width [] 0 (graphemes cs)

/-- The beginning of graphemes that fills `width` columns. A blank stands for the half of a grapheme
that does not fit. -/
def cropGraphemes (width : Nat) : List Grapheme → List Char
  | [] => []
  | g :: gs =>
    if width < g.width then List.replicate width ' '
    else g.chars ++ cropGraphemes (width - g.width) gs

/-- A line without the blanks that make it longer than `width`, and then without all that is
beyond. -/
def fitLine (wrapping : Wrapping) (width : Nat) (line : List Char) : List Char :=
  let blanks := line.length - (trimEnd isBlank line).length
  let line := line.take (line.length - min blanks (line.length - width))
  if columns line ≤ width then line
  else if wrapping = .fold then cropGraphemes width (graphemes line)
  else cropGraphemes (width - 1) (graphemes line) ++ ['…']

/-! ## Filling -/

/-- The lines before the last one, the last of them first, and the last line with its columns. -/
structure Filling where
  full : List (List Char) := []
  line : List Char := []
  column : Nat := 0

namespace Filling

/-- Go on with a piece on a new line, unless there is nothing yet. -/
def breakBefore (f : Filling) (piece : List Char) : Filling :=
  if f.full.isEmpty && f.line.isEmpty then { line := piece, column := columns piece }
  else { full := f.line :: f.full, line := piece, column := columns piece }

/-- Go on with a word, on the same line if it fits there. -/
def add (folding : Bool) (width : Nat) (f : Filling) (word : List Char) : Filling :=
  if f.column + inkColumns word ≤ width then
    { f with line := f.line ++ word, column := f.column + columns word }
  else if folding && width < inkColumns word then (chop width word).foldl breakBefore f
  else f.breakBefore word

def lines (f : Filling) : List (List Char) :=
  (f.line :: f.full).reverse

end Filling

/-- The lines of a text without line feeds, each of at most `width` columns. -/
def wrap (wrapping : Wrapping) (width : Nat) (cs : List Char) : List (List Char) :=
  let words := if wrapping = .never then [] else wordsFrom cs.length cs
  let lines := match words with
    | [] => [cs]
    | words => (words.foldl (Filling.add (wrapping = Wrapping.fold) width) {}).lines
  lines.map (fitLine wrapping width)

end Phrasebook.Text
