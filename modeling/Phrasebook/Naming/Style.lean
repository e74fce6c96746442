-- SUMMARY: Case styles of names, and the name a key has in each of them.
import Phrasebook.Text.Basic

/-!
# Case styles

A key is cleaned to ASCII letters, digits and underscores, cut into words, and
the words are put together again in one of four styles. A word ends where an
underscore stands and where a lower-case letter or a digit meets a capital.
-/

namespace Phrasebook.Naming

open Text

inductive Style where
  | snake
  | camel
  | pascal
  | screaming
  deriving DecidableEq, Repr

/-- The word by which settings name a style. -/
def Style.word : Style → String
  | .snake => "snake"
  | .camel => "camel"
  | .pascal => "pascal"
  | .screaming => "screaming_snake"

/-- The style of a word. -/
def Style.ofWord? (s : String) : Option Style :=
  [Style.snake, .camel, .pascal, .screaming].find? (·.word == s)

@[simp] theorem Style.ofWord?_word (style : Style) : Style.ofWord? style.word = some style := by
  cases style <;> rfl

theorem Style.eq_word_of_ofWord? {s : String} {style : Style} (h : Style.ofWord? s = some style) :
    s = style.word := by
  have hword := List.find?_some h
  exact (beq_iff_eq.mp hword).symm

/-! ## Cleaning -/

def isUnderscore (c : Char) : Bool :=
  c = '_'

/-- Whether a name may hold the character: ASCII letters, digits and the underscore. -/
def isNameChar (c : Char) : Bool :=
  c.isAlphanum || c = '_'

/-- A key with an underscore for every other character, and none at either end. -/
def clean (key : List Char) : List Char :=
  trim isUnderscore (key.map fun c => if isNameChar c then c else '_')

/-! ## Words -/

/-- Whether a word ends between two characters. -/
def isBoundary (c d : Char) : Bool :=
  (c.isLower || c.isDigit) && d.isUpper

/-- An underscore put in at every boundary. -/
def breakWords : List Char → List Char
  | [] => []
  | [c] => [c]
  | c :: d :: cs =>
    if isBoundary c d then c :: '_' :: breakWords (d :: cs) else c :: breakWords (d :: cs)

/-- Every run of underscores made one. -/
def squeeze : List Char → List Char
  | [] => []
  | [c] => [c]
  | c :: d :: cs =>
    if c = '_' && d = '_' then squeeze (d :: cs) else c :: squeeze (d :: cs)

/-- Lower-case words joined by single underscores. -/
def snakeCase (name : List Char) : List Char :=
  trim isUnderscore (squeeze ((breakWords name).map Char.toLower))

/-- The words of a name, in lower case. -/
def words (name : List Char) : List (List Char) :=
  (split '_' (snakeCase name)).filter (!·.isEmpty)

/-- A word with a capital first and lower case after it. -/
def capitalize : List Char → List Char
  | [] => []
  | c :: cs => c.toUpper :: cs.map Char.toLower

/-! ## Styles -/

/-- A cleaned name in a style. -/
def Style.convert (style : Style) (name : List Char) : List Char :=
  match style with
  | .snake => snakeCase name
  | .screaming => (snakeCase name).map Char.toUpper
  | .pascal => (words name).flatMap capitalize
  | .camel =>
    match words name with
    | [] => []
    | word :: more => word ++ more.flatMap capitalize

end Phrasebook.Naming
