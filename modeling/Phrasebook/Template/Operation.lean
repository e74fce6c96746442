-- SUMMARY: The operators on values: comparing, looking for, joining and reckoning.
import Phrasebook.Template.Basic
import Phrasebook.Template.Value
import Phrasebook.Text.Order

/-!
# Operators

Numbers are equal if their values are, whatever their kinds; truth values count
as zero and one. Only numbers, only texts and only lists can be ordered among
themselves. Reckoning is with integers.
-/

namespace Phrasebook.Template

open Text

/-! ## Numbers -/

/-- Where a number stands among all numbers. -/
inductive Magnitude where
  | below
  | finite (x : Binary64.Scaled)
  | above
  | unordered
  deriving DecidableEq, Repr

/-- The number that a value is. -/
def magnitude? : Json → Option Magnitude
  | .int i => some (.finite (i, 0))
  | .bool b => some (.finite (if b then 1 else 0, 0))
  | .float (.infinite negative) => some (if negative then .below else .above)
  | .float x => some (x.scaled?.elim .unordered .finite)
  | _ => none

/-- How two numbers are ordered, if they are. -/
def Magnitude.order? : Magnitude → Magnitude → Option Ordering
  | .unordered, _ => none
  | _, .unordered => none
  | .finite x, .finite y => some (Binary64.Scaled.order x y)
  | .below, .below => some .eq
  | .above, .above => some .eq
  | .below, _ => some .lt
  | _, .below => some .gt
  | .above, _ => some .gt
  | _, .above => some .lt

/-! ## Equality -/

mutual

/-- Whether two values are equal. Objects are if they have equal members, in any order. -/
def sameJson : Json → Json → Bool
  | .null, .null => true
  | .str s, .str t => s = t
  | .arr items, .arr others => sameItems items others
  | .obj fields, .obj others => fields.length = others.length && sameFields fields others
  | v, w =>
    match magnitude? v, magnitude? w with
    | some x, some y => x.order? y == some .eq
    | _, _ => false

def sameItems : List Json → List Json → Bool
  | [], [] => true
  | v :: items, w :: others => sameJson v w && sameItems items others
  | _, _ => false

def sameFields : List (String × Json) → List (String × Json) → Bool
  | [], _ => true
  | (key, v) :: fields, others =>
    (match others.lookup key with
      | some w => sameJson v w
      | none => false) && sameFields fields others

end

/-- Whether two values are equal. -/
def Value.same (v w : Value) : Use Bool :=
  match v, w with
  | .undefined message, _ => .error (.missing message)
  | _, .undefined message => .error (.missing message)
  | .json v, .json w => .ok (sameJson v w)
  | .markup s, .markup t => .ok (s = t)
  | .markup s, .json (.str t) => .ok (s = t)
  | .json (.str s), .markup t => .ok (s = t)
  | .type s, .type t => .ok (s = t)
  | .sequence kind items, .sequence other others =>
    match jsons? items, jsons? others with
    | some items, some others => .ok (kind = other && sameItems items others)
    | _, _ => .error (.unsupported "comparing lists of such values")
  | v, w =>
    if v.typeName = w.typeName then .error (.unsupported "comparing such values") else .ok false

/-! ## Order -/

def orderTexts (s t : String) : Ordering :=
  if s = t then .eq else if atMost s.toList t.toList then .lt else .gt

/-- Two values that cannot be ordered, by the names of their types. -/
abbrev Disorder := String × String

mutual

/-- How two values are ordered, if they are. -/
def orderJson : Json → Json → Except Disorder (Option Ordering)
  | .str s, .str t => .ok (some (orderTexts s t))
  | .arr items, .arr others => orderItems items others
  | v, w =>
    match magnitude? v, magnitude? w with
    | some x, some y => .ok (x.order? y)
    | _, _ => .error (v.kind.word, w.kind.word)

/-- How two lists are ordered: as the first items that differ, or else by their lengths. -/
def orderItems : List Json → List Json → Except Disorder (Option Ordering)
  | [], [] => .ok (some .eq)
  | [], _ :: _ => .ok (some .lt)
  | _ :: _, [] => .ok (some .gt)
  | v :: items, w :: others =>
    if sameJson v w then orderItems items others else orderJson v w

end

/-- The sign of a comparison. -/
def Comparison.sign : Comparison → String
  | .equal => "=="
  | .notEqual => "!="
  | .less => "<"
  | .lessOrEqual => "<="
  | .greater => ">"
  | .greaterOrEqual => ">="
  | .isIn => "in"
  | .isNotIn => "not in"

/-- Whether values of an order meet a comparison by order. -/
def Comparison.admits : Comparison → Ordering → Bool
  | .less, o => o == .lt
  | .lessOrEqual, o => o != .gt
  | .greater, o => o == .gt
  | .greaterOrEqual, o => o != .lt
  | _, _ => false

/-- Whether two values meet a comparison by order. -/
def Value.ordered (comparison : Comparison) (v w : Value) : Use Bool :=
  match v, w with
  | .undefined message, _ => .error (.missing message)
  | _, .undefined message => .error (.missing message)
  | .json v, .json w =>
    match orderJson v w with
    | .ok order => .ok (order.any comparison.admits)
    | .error (left, right) =>
      .error (.type (quoted comparison.sign ++ " not supported between instances of "
        ++ quoted left ++ " and " ++ quoted right))
  | _, _ => .error (.unsupported "ordering such values")

/-! ## Looking for values -/

/-- Whether a text holds another one. -/
def holdsText (part : List Char) : List Char → Bool
  | [] => part.isEmpty
  | c :: cs => part.isPrefixOf (c :: cs) || holdsText part cs

/-- Whether a value is equal to one of the items. -/
def Value.isAmong (v : Value) : List Value → Use Bool
  | [] => .ok false
  | item :: items => do
    if ← v.same item then return true else v.isAmong items

/-- Whether a value is in another one: an item of a list, a key of an object, a part of a text. -/
def Value.isIn (v container : Value) : Use Bool :=
  match v, container with
  | _, .undefined message => .error (.missing message)
  | .json (.str part), .json (.str s) => .ok (holdsText part.toList s.toList)
  | v, .json (.str _) =>
    .error (.type ("'in <string>' requires string as left operand, not " ++ v.typeName))
  | .undefined message, .json (.obj _) => .error (.missing message)
  | .json (.str key), .json (.obj fields) => .ok (fields.lookup key).isSome
  | .json (.arr _), .json (.obj _) => .error (.type "unhashable type: 'list'")
  | .json (.obj _), .json (.obj _) => .error (.type "unhashable type: 'dict'")
  | _, .json (.obj _) => .ok false
  | v, container =>
    match container.items? with
    | some items => v.isAmong items
    | none => .error (.type ("argument of type '" ++ container.typeName ++ "' is not iterable"))

/-- Whether two values meet a comparison. -/
def Value.meets (comparison : Comparison) (v w : Value) : Use Bool :=
  match comparison with
  | .equal => v.same w
  | .notEqual => (!·) <$> v.same w
  | .isIn => v.isIn w
  | .isNotIn => (!·) <$> v.isIn w
  | comparison => v.ordered comparison w

/-! ## Reckoning -/

/-- The sign of an operator as messages have it. -/
def Operator.sign : Operator → String
  | .add => "+"
  | .subtract => "-"
  | .multiply => "*"
  | .divide => "/"
  | .floorDivide => "//"
  | .remainder => "%"
  | .power => "** or pow()"

/-- The quotient of two integers as a number with a fraction. -/
def quotient (i j : Int) : Binary64 :=
  if i = 0 then .finite (j < 0) 0 Binary64.minExponent
  else Binary64.ofQuotient ((i < 0) != (j < 0)) i.natAbs j.natAbs

/-- What an operator makes of two integers. -/
def Operator.ofIntegers (operator : Operator) (i j : Int) : Use Value :=
  match operator with
  | .add => .ok (.json (.int (i + j)))
  | .subtract => .ok (.json (.int (i - j)))
  | .multiply => .ok (.json (.int (i * j)))
  | .divide =>
    if j = 0 then .error (.content "division by zero") else .ok (.json (.float (quotient i j)))
  | .floorDivide =>
    if j = 0 then .error (.content "integer division or modulo by zero")
    else .ok (.json (.int (Int.fdiv i j)))
  | .remainder =>
    if j = 0 then .error (.content "integer modulo by zero") else .ok (.json (.int (Int.fmod i j)))
  | .power =>
    if j < 0 then .error (.unsupported "a negative power")
    else if i.natAbs ≤ 1 || j ≤ 10000 then .ok (.json (.int (Int.pow i j.toNat)))
    else .error (.unsupported "a power as great")

/-- What an operator makes of two values that are not both integers. -/
def Operator.ofOthers (operator : Operator) (v w : Value) : Use Value :=
  let multiplied : Use Value :=
    .error (.type ("can't multiply sequence by non-int of type '" ++ w.typeName ++ "'"))
  match operator, v, w with
  | .add, .json (.str s), .json (.str t) => .ok (.text (s ++ t))
  | .add, .json (.arr items), .json (.arr others) => .ok (.json (.arr (items ++ others)))
  | .add, .json (.str _), w =>
    .error (.type ("can only concatenate str (not \"" ++ w.typeName ++ "\") to str"))
  | .add, .json (.arr _), w =>
    .error (.type ("can only concatenate list (not \"" ++ w.typeName ++ "\") to list"))
  | .multiply, .json (.str _), .json (.str _) => multiplied
  | .multiply, .json (.str _), .json (.arr _) => multiplied
  | .multiply, .json (.arr _), .json (.str _) => multiplied
  | .multiply, .json (.arr _), .json (.arr _) => multiplied
  | operator, .json v, .json w =>
    let isNumber (v : Json) := (magnitude? v).isSome
    let isText := match operator, v with
      | .remainder, .str _ => true
      | .multiply, .str _ => isNumber w
      | .multiply, .arr _ => isNumber w
      | .multiply, v => isNumber v && (w.kind = .str || w.kind = .arr)
      | _, _ => false
    if isText || (isNumber v && isNumber w) then .error (.unsupported operator.sign)
    else
      .error (.type ("unsupported operand type(s) for " ++ operator.sign ++ ": "
        ++ quoted v.kind.word ++ " and " ++ quoted w.kind.word))
  | operator, _, _ => .error (.unsupported operator.sign)

/-- What an operator makes of two values. -/
def Operator.apply (operator : Operator) (v w : Value) : Use Value :=
  match v, w with
  | .undefined message, _ => .error (.missing message)
  | _, .undefined message => .error (.missing message)
  | v, w =>
    match v.integer?, w.integer? with
    | some i, some j => operator.ofIntegers i j
    | _, _ => operator.ofOthers v w

/-- A number with its sign changed, or as it is. -/
def Value.signed (negative : Bool) (v : Value) : Use Value :=
  match v, v.integer? with
  | .undefined message, _ => .error (.missing message)
  | _, some i => .ok (.json (.int (if negative then -i else i)))
  | .json (.float (.finite sign mantissa exponent)), _ =>
    .ok (.json (.float (.finite (sign != negative) mantissa exponent)))
  | .json (.float (.infinite sign)), _ => .ok (.json (.float (.infinite (sign != negative))))
  | .json (.float .nan), _ => .ok (.json (.float .nan))
  | v, none =>
    .error (.type ("bad operand type for unary " ++ (if negative then "-" else "+") ++ ": '"
      ++ v.typeName ++ "'"))

end Phrasebook.Template
