-- SUMMARY: Lower, upper and title case of text.
import Phrasebook.Text.CaseTables

/-!
# Letter case

Full case conversion: a character may become several, and the capital sigma
becomes a final sigma at the end of a word.
-/

namespace Phrasebook.Text

/-- The image of one character: its listed expansion, else its run's, else itself. -/
def mapCase (runs : List CaseRun) (expansions : List (Nat × List Nat)) (c : Char) : List Char :=
  match expansions.find? (·.1 == c.toNat) with
  | some (_, image) => image.map Char.ofNat
  | none =>
    match runs.find? (·.has c.toNat) with
    | some run => [Char.ofNat (c.toNat + run.shift).toNat]
    | none => [c]

def isCased (c : Char) : Bool :=
  casedRanges.has c

def isCaseIgnorable (c : Char) : Bool :=
  caseIgnorableRanges.has c

/-- Whether the first character that is not case-ignorable is cased. -/
def meetsCased (cs : List Char) : Bool :=
  match cs.dropWhile isCaseIgnorable with
  | [] => false
  | c :: _ => isCased c

/-- Lower case of `c`, which stands between the reversed text `before` and the text `after`. A
capital sigma is final when a cased character precedes it and none follows. -/
def lowerAt (before : List Char) (c : Char) (after : List Char) : List Char :=
  if c.toNat = 0x3A3 then
    [Char.ofNat (if meetsCased before && !meetsCased after then 0x3C2 else 0x3C3)]
  else mapCase lowerRuns lowerExpansions c

/-- Lower case of the second text, which the first one, reversed, precedes. -/
def lowerFrom (before : List Char) : List Char → List Char
  | [] => []
  | c :: cs => lowerAt before c cs ++ lowerFrom (c :: before) cs

def toLower (cs : List Char) : List Char :=
  lowerFrom [] cs

def toUpper (cs : List Char) : List Char :=
  cs.flatMap (mapCase upperRuns upperExpansions)

/-- Title case of the second text: lower case after a cased character, else title case. -/
def titleFrom (before : List Char) : List Char → List Char
  | [] => []
  | c :: cs =>
    (if before.head?.any isCased then lowerAt before c cs
      else mapCase titleRuns titleExpansions c) ++ titleFrom (c :: before) cs

def toTitle (cs : List Char) : List Char :=
  titleFrom [] cs

/-- Lower case of a string. -/
def lower (s : String) : String :=
  String.ofList (toLower s.toList)

/-- Title case of a string. -/
def title (s : String) : String :=
  String.ofList (toTitle s.toList)

end Phrasebook.Text
