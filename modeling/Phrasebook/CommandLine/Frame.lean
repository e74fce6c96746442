-- SUMMARY: Tables and panels: text in boxes.
import Phrasebook.CommandLine.Lines

/-!
# Tables and panels

A table has columns under headings, as wide as their widest cell. If it is wider
than a printed line, its widest columns give way first, those that are not
wrapped last. A panel is a box around text that is as wide as a printed line.
-/

namespace Phrasebook.CommandLine

open Text

/-! ## Boxes -/

/-- A horizontal rule across columns. -/
structure Rule where
  left : Char
  line : Char
  crossing : Char
  right : Char

/-- The rule over columns of some widths. -/
def Rule.across (r : Rule) (widths : List Nat) : List Char :=
  r.left :: join [r.crossing] (widths.map (List.replicate · r.line)) ++ [r.right]

/-- The rules of a box, and what stands beside and between its columns. -/
structure Box where
  top : Rule
  belowHeadings : Rule
  bottom : Rule
  left : Char
  divider : Char
  right : Char

def Box.rounded : Box where
  top := ⟨'╭', '─', '┬', '╮'⟩
  belowHeadings := ⟨'├', '─', '┼', '┤'⟩
  bottom := ⟨'╰', '─', '┴', '╯'⟩
  left := '│'
  divider := '│'
  right := '│'

/-- A box with no more than a line below the headings. -/
def Box.simple : Box where
  top := ⟨' ', ' ', ' ', ' '⟩
  belowHeadings := ⟨' ', '─', '─', ' '⟩
  bottom := ⟨' ', ' ', ' ', ' '⟩
  left := ' '
  divider := ' '
  right := ' '

/-! ## Filling up lines -/

/-- A line filled up with blanks. -/
def padded (width : Nat) (line : List Char) : List Char :=
  line ++ List.replicate (width - columns line) ' '

/-- A line filled up at both ends. -/
def centered (fill : Char) (width : Nat) (line : List Char) : List Char :=
  let free := width - columns line
  List.replicate (free / 2) fill ++ line ++ List.replicate (free - free / 2) fill

/-! ## Widths of columns -/

/-- Whether a character ends a line of text. -/
def isLineEnd (c : Char) : Bool :=
  let n := c.toNat
  (0xA ≤ n && n ≤ 0xD) || (0x1C ≤ n && n ≤ 0x1E) || n == 0x85 || n == 0x2028 || n == 0x2029

/-- The columns of the widest line of a cell. Tabs count as nothing. -/
def cellWidth (s : String) : Nat :=
  let lines := split '\n' ((plainText s).map fun c => if isLineEnd c then '\n' else c)
  (lines.map columns).foldl max 0

/-- The columns that some widths make together. -/
def total : List Nat → Nat
  | [] => 0
  | width :: widths => width + total widths

/-- The quotient as an integer, the even one of two that are as near. -/
def nearestQuotient (n d : Nat) : Nat :=
  let q := n / d
  let twice := 2 * (n % d)
  if twice < d then q else if d < twice then q + 1 else q + q % 2

/-- A column that may give way, up to some amount. -/
structure Slack where
  width : Nat
  amount : Nat

/-- Take columns off widths, as evenly as can be. `sharers` is the number of columns that can give
way. -/
def takeEvenly (excess sharers : Nat) : List Slack → List Nat
  | [] => []
  | s :: rest =>
    if s.amount = 0 || sharers = 0 then s.width :: takeEvenly excess sharers rest
    else
      let share := min s.amount (nearestQuotient excess sharers)
      (s.width - share) :: takeEvenly (excess - share) (sharers - 1) rest

/-- Take columns off those that can give way. -/
def takeOff (excess : Nat) (slacks : List Slack) : List Nat :=
  takeEvenly excess (slacks.countP (·.amount != 0)) slacks

/-- Make the widest of the wrapped columns narrower until they fit, or are all as wide. The first
argument bounds the number of steps. -/
def narrow (wraps : List Bool) (limit : Nat) : Nat → List Nat → List Nat
  | 0, widths => widths
  | fuel + 1, widths =>
    let excess := total widths - limit
    let candidates := (widths.zip wraps).filterMap fun (width, w) => if w then some width else none
    let widest := candidates.foldl max 0
    let difference := widest - (candidates.filter (· != widest)).foldl max 0
    if excess = 0 || difference = 0 then widths
    else
      let slack (column : Nat × Bool) : Slack :=
        ⟨column.1, if column.2 && column.1 = widest then min excess difference else 0⟩
      narrow wraps limit fuel (takeOff excess ((widths.zip wraps).map slack))

/-- The widths of columns within some limit, given those that they would take up. -/
def fitWidths (wraps : List Bool) (limit : Nat) (widths : List Nat) : List Nat :=
  let widths := narrow wraps limit widths.length widths
  takeOff (total widths - limit) (widths.map fun width => ⟨width, width⟩)

/-! ## Tables -/

structure Column where
  heading : String
  /-- Whether its cells are wrapped. -/
  wraps : Bool := true

structure Table where
  title : String
  box : Box
  columns : List Column
  /-- A cell for each column. -/
  rows : List (List String)

namespace Table

/-- The widths of the columns in lines of some columns, with a blank on both sides of each cell. -/
def widths (t : Table) (width : Nat) : List Nat :=
  let limit := width - (t.columns.length + 1)
  let headings := t.columns.map fun c => cellWidth c.heading
  let cells := t.rows.foldl (fun ws row => ws.zipWith (fun w cell => max w (cellWidth cell)) row)
    headings
  fitWidths (t.columns.map (·.wraps)) limit (cells.map fun width => min limit (width + 2))

/-- The lines of a cell in a column of some width. There are none if there is no room for a
character. -/
def cellLines (wraps : Bool) (width : Nat) (cell : String) : List (List Char) :=
  if width ≤ 2 then []
  else
    (linesWithin (if wraps then .cut else .never) (width - 2) cell).map fun line =>
      ' ' :: padded (width - 2) line ++ [' ']

/-- The lines of a row. Cells of fewer lines are filled up, at the top if `atBottom`. -/
def rowLines (t : Table) (widths : List Nat) (atBottom : Bool) (row : List String) :
    List (List Char) :=
  let cells := (row.zip (t.columns.zip widths)).map fun (cell, column, width) =>
    (width, cellLines column.wraps width cell)
  let height := (cells.map (·.2.length)).foldl max 1
  let filled := cells.map fun (width, lines) =>
    let rest := List.replicate (height - lines.length) (List.replicate width ' ')
    if atBottom then rest ++ lines else lines ++ rest
  (List.range height).map fun i =>
    t.box.left :: join [t.box.divider] (filled.map fun lines => lines.getD i []) ++ [t.box.right]

def lines (t : Table) (width : Nat) : List (List Char) :=
  let widths := t.widths width
  let width := total widths + widths.length + 1
  (linesWithin .fold width t.title).map (centered ' ' width ∘ trimEnd isBlank)
    ++ [t.box.top.across widths]
    ++ t.rowLines widths true (t.columns.map (·.heading))
    ++ [t.box.belowHeadings.across widths]
    ++ t.rows.flatMap (t.rowLines widths false)
    ++ [t.box.bottom.across widths]

end Table

/-! ## Panels -/

/-- The lines of a panel with a title of one line. -/
def panelLines (width : Nat) (title content : String) : List (List Char) :=
  let inner := width - 4
  let title := centered '─' inner (' ' :: title.toList ++ [' '])
  let body := (linesWithin .fold inner content).map fun line =>
    '│' :: ' ' :: padded inner line ++ [' ', '│']
  ('╭' :: '─' :: title ++ ['─', '╮']) :: body
    ++ [Rule.across ⟨'╰', '─', '─', '╯'⟩ [width - 2]]

/-! ## Drawing -/

/-- A drawn line without what is beyond some columns. -/
def cropped (width : Nat) (line : List Char) : List Char :=
  if columns line ≤ width then line else cropGraphemes width (graphemes line)

/-- The text of drawn lines. -/
def drawn (width : Nat) (lines : List (List Char)) : String :=
  joinStrings "" (lines.map fun line => String.ofList (cropped width line ++ ['\n']))

end Phrasebook.CommandLine
