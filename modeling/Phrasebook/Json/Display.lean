-- SUMMARY: The text by which messages and generated code show a JSON value.
import Phrasebook.Json.Basic
import Phrasebook.Text.Quoted

/-!
# Showing JSON values

A text stands for itself; every other value, and every text inside a list or an
object, is shown in quoted form. Where there is a limit, an integer may have too
many digits for that, and lists and objects may be nested too deeply.
-/

namespace Phrasebook.Json

open Text

mutual

/-- The quoted form of a value. -/
def quotedForm : Json → String
  | .null => "None"
  | .bool true => "True"
  | .bool false => "False"
  | .int i => toString i
  | .float x => x.render "inf" "nan"
  | .str s => quoted s
  | .arr items => "[" ++ joinStrings ", " (quotedItems items) ++ "]"
  | .obj fields => "\x7b" ++ joinStrings ", " (quotedFields fields) ++ "\x7d"

def quotedItems : List Json → List String
  | [] => []
  | item :: items => quotedForm item :: quotedItems items

def quotedFields : List (String × Json) → List String
  | [] => []
  | (key, value) :: fields => (quoted key ++ ": " ++ quotedForm value) :: quotedFields fields

end

/-- The text that shows a value. -/
def display : Json → String
  | .str s => s
  | v => quotedForm v

@[simp] theorem display_str (s : String) : display (.str s) = s := by
  simp [display]

/-! ## Limits -/

/-- How far a value is shown: to how many digits of an integer, and to what depth of nesting below
the value itself. -/
structure Limit where
  digits : Nat
  depth : Nat
  deriving DecidableEq, Repr

/-- Why a value cannot be shown. -/
inductive Unshown where
  /-- An integer has more digits than these. -/
  | digits (most : Nat)
  | depth
  deriving DecidableEq, Repr

def Unshown.message : Unshown → String
  | .digits most => "Exceeds the limit (" ++ toString most
    ++ " digits) for integer string conversion; use sys.set_int_max_str_digits() to increase the limit"
  | .depth => "maximum recursion depth exceeded while getting the repr of an object"

mutual

/-- Why a value has no quoted form within some digits and some depth, if it has none. -/
def unquoted? (digits depth : Nat) : Json → Option Unshown
  | .int i => if digits < (toString i.natAbs).length then some (.digits digits) else none
  | .arr items => unquotedItems? digits depth items
  | .obj fields => unquotedFields? digits depth fields
  | _ => none

def unquotedItems? (digits depth : Nat) : List Json → Option Unshown
  | [] => none
  | item :: items =>
    match depth with
    | 0 => some .depth
    | below + 1 => (unquoted? digits below item).or (unquotedItems? digits depth items)

def unquotedFields? (digits depth : Nat) : List (String × Json) → Option Unshown
  | [] => none
  | (_, value) :: fields =>
    match depth with
    | 0 => some .depth
    | below + 1 => (unquoted? digits below value).or (unquotedFields? digits depth fields)

end

/-- Why a value cannot be shown, if it cannot. A text always can. -/
def unshown? (limit : Option Limit) : Json → Option Unshown
  | .str _ => none
  | v => limit.bind fun l => v.unquoted? l.digits l.depth

@[simp] theorem unshown?_str (limit : Option Limit) (s : String) : unshown? limit (.str s) = none :=
  rfl

/-- Without a limit, every value can be shown. -/
@[simp] theorem unshown?_none (v : Json) : unshown? none v = none := by
  cases v <;> rfl

end Phrasebook.Json
