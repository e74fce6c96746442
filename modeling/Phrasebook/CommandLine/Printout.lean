-- SUMMARY: What the program prints, and what a console shows of it.
import Phrasebook.CommandLine.Frame

/-!
# Printouts

What stands in one print is printed as a whole or, if the console refuses the
markup of one of its texts, not at all, and then nothing is printed after it.
How it looks is the console's business: plain text in lines of its width, unless
it is a terminal.
-/

namespace Phrasebook.CommandLine

open Text

/-! ## Prints -/

/-- What is printed as a whole. -/
inductive Print where
  | blankLine
  /-- A text with markup. -/
  | text (s : String)
  | table (t : Table)
  | panel (title content : String)
  /-- A text as it is. -/
  | verbatim (s : String)
  /-- A text in a programming language, which a terminal highlights. -/
  | highlighted (language code : String)

namespace Print

/-- The texts of a print whose markup is read. -/
def texts : Print → List String
  | .text s => [s]
  | .table t => t.title :: t.columns.map (·.heading) ++ t.rows.flatten
  | .panel title content => [title, content]
  | _ => []

/-- A print as plain text in lines of some width. -/
def plain (width : Nat) : Print → String
  | .blankLine => "\n"
  | .text s => printable width s ++ "\n"
  | .table t => drawn width (t.lines width)
  | .panel title content => drawn width (panelLines width title content)
  | .verbatim s => s
  | .highlighted _ code => code

end Print

/-! ## Consoles -/

/-- What prints texts with markup, if it accepts the markup. -/
structure Console where
  accepts : String → Bool := endsOnlyBegun
  /-- The columns of a printed line. -/
  width : Nat := 80
  /-- What a terminal shows of a print, if the console is one. -/
  terminal : Option (Print → String) := none

/-- What has been printed, and the text at which the printing has stopped. -/
structure Printout where
  output : String := ""
  refused : Option String := none
  deriving DecidableEq, Repr

namespace Console

def isTerminal (console : Console) : Bool :=
  console.terminal.isSome

/-- What the console shows of a print. -/
def look (console : Console) (p : Print) : String :=
  match console.terminal with
  | some shown => shown p
  | none => p.plain console.width

/-- The first text of a print that is not accepted. -/
def refused? (console : Console) (p : Print) : Option String :=
  p.texts.find? (!console.accepts ·)

def print (console : Console) : List Print → Printout
  | [] => {}
  | p :: ps =>
    match console.refused? p with
    | some text => { refused := some text }
    | none =>
      let rest := console.print ps
      { rest with output := console.look p ++ rest.output }

end Console

end Phrasebook.CommandLine
