-- SUMMARY: Markup in printed text: tags that begin and end styles.
import Phrasebook.Text.Blank
import Phrasebook.Text.Case

/-!
# Markup

In a text that is printed, a name in brackets begins a style, and a name after a
slash ends it; a slash alone ends the style that has begun last. There are no
styles where plain text is printed, so the tags go away. A backslash keeps a
bracket as it is. A text that ends a style which has not begun makes no sense.
-/

namespace Phrasebook.CommandLine

open Text

/-! ## Pieces -/

/-- A piece of a text with markup. -/
inductive Piece where
  | plain (cs : List Char)
  /-- A tag, by what its brackets hold. -/
  | tag (inside : List Char)
  deriving DecidableEq, Repr

namespace Piece

/-- The characters of a piece that are printed. -/
def shown : Piece → List Char
  | .plain cs => cs
  | .tag _ => []

def tag? : Piece → Option (List Char)
  | .plain _ => none
  | .tag inside => some inside

end Piece

/-- Whether a character can begin a tag. -/
def beginsTag (c : Char) : Bool :=
  ('a' ≤ c && c ≤ 'z') || c = '#' || c = '@' || c = '/'

/-- What a tag at the beginning of a text holds, and the text after it. -/
def leadingTag? : List Char → Option (List Char × List Char)
  | '[' :: c :: cs =>
    let isInside (d : Char) : Bool := d != ']' && d != '['
    match beginsTag c, cs.dropWhile isInside with
    | true, ']' :: rest => some (c :: cs.takeWhile isInside, rest)
    | _, _ => none
  | _ => none

/-- The pieces of a text. An odd number of backslashes before a tag makes it plain, and they count
half there. The first argument bounds the number of steps. -/
def piecesFrom : Nat → List Char → List Piece
  | 0, cs => [.plain cs]
  | fuel + 1, cs =>
    let slashes := (cs.takeWhile (· = '\\')).length
    let rest := cs.dropWhile (· = '\\')
    let kept (n : Nat) := List.replicate n '\\'
    match leadingTag? rest, rest with
    | some (inside, rest), _ =>
      .plain (kept (slashes / 2))
        :: (if slashes % 2 = 0 then .tag inside else .plain ('[' :: inside ++ [']']))
        :: piecesFrom fuel rest
    | none, '[' :: rest => .plain (kept (slashes - 1) ++ ['[']) :: piecesFrom fuel rest
    | none, c :: rest => .plain (kept slashes ++ [c]) :: piecesFrom fuel rest
    | none, [] => [.plain (kept slashes)]

def pieces (s : String) : List Piece :=
  piecesFrom (s.toList.length + 1) s.toList

/-- A text without its tags. -/
def withoutTags (s : String) : List Char :=
  (pieces s).flatMap Piece.shown

/-! ## Styles -/

/-- The styles that have a short name. -/
def shortNames : List (String × String) :=
  [("b", "bold"), ("d", "dim"), ("i", "italic"), ("u", "underline"), ("uu", "underline2"),
   ("r", "reverse"), ("c", "conceal"), ("s", "strike"), ("o", "overline")]

/-- The style that a tag names, before its parameters. -/
def styleNamed (cs : List Char) : String :=
  let name := lower (strip (String.ofList (cs.takeWhile (· != '='))))
  (shortNames.lookup name).getD name

/-- The styles that are on after a tag, the last one first. -/
def afterTag (styles : List String) : List Char → Option (List String)
  | '/' :: name =>
    let style := styleNamed name
    if style = "" then styles.tail?
    else if styles.contains style then some (styles.erase style)
    else none
  | name => some (styleNamed name :: styles)

/-- Whether a text ends only styles that it has begun. -/
def endsOnlyBegun (s : String) : Bool :=
  (((pieces s).filterMap Piece.tag?).foldlM afterTag []).isSome

example : endsOnlyBegun "[red]✗ Error:[/red] [b]x[/bold]" ∧ ¬ endsOnlyBegun "a [/b] c" := by
  decide +kernel

end Phrasebook.CommandLine
