-- SUMMARY: The names, filters, tests and methods that every template can use.
import Phrasebook.Template.Operation
import Phrasebook.Text.Blank
import Phrasebook.Text.Case

/-!
# What every template knows

Some names stand for types and functions. Filters make a value of another one,
tests tell something of a value. Those that are known by name only are refused
when they are used.
-/

namespace Phrasebook.Template

open Text

/-! ## Names -/

/-- The values of names that the context does not hold. -/
def globals : List (String × Value) :=
  [("range", .type "range"), ("dict", .type "dict"), ("lipsum", .function "generate_lorem_ipsum"),
   ("cycler", .type "jinja2.utils.Cycler"), ("joiner", .type "jinja2.utils.Joiner"),
   ("namespace", .type "jinja2.utils.Namespace")]

/-! ## Markup -/

/-- A character as it is written in a markup text. -/
def markupChar (c : Char) : List Char :=
  match c with
  | '&' => "&amp;".toList
  | '<' => "&lt;".toList
  | '>' => "&gt;".toList
  | '"' => "&#34;".toList
  | '\x27' => "&#39;".toList
  | c => [c]

/-- A text as it is written in a markup text. -/
def escapeMarkup (s : String) : String :=
  String.ofList (s.toList.flatMap markupChar)

/-- A value as it is shown in a markup text. -/
def Value.displayEscaped : Value → Use String
  | .markup s => .ok s
  | v => escapeMarkup <$> v.display

def Value.isMarkup : Value → Bool
  | .markup _ => true
  | _ => false

/-- The texts of values one after the other, in a markup text if one of them is one. -/
def joinValues (escaping : Bool) (values : List Value) : Use Value := do
  if escaping && values.any Value.isMarkup then
    return .markup (joinStrings "" (← values.mapM Value.displayEscaped))
  else return .text (joinStrings "" (← values.mapM Value.display))

/-! ## Filters -/

/-- What a filter of texts makes of a value. Markup stays markup. -/
def mapText (f : List Char → List Char) (v : Value) : Use Value := do
  let s := String.ofList (f (← v.display).toList)
  return if v.isMarkup then .markup s else .text s

/-- A text with its first character in upper case and the others in lower case. -/
def capitalize : List Char → List Char
  | [] => []
  | c :: cs => (toTitle [c]) ++ (toLower (c :: cs)).drop (toLower [c]).length

/-- The number of items of a value. -/
def Value.size (v : Value) : Use Nat :=
  match v, v.items? with
  | .undefined message, _ => .error (.missing message)
  | .loop _ items, _ => .ok items.length
  | _, some items => .ok items.length
  | v, none => .error (.type ("object of type '" ++ v.typeName ++ "' has no len()"))

/-- The filters by their names, given the value and the arguments. -/
def builtinFilter? (name : String) : Option (Value → List Value → Use Value) :=
  match name with
  | "upper" => some fun v _ => mapText toUpper v
  | "lower" => some fun v _ => mapText toLower v
  | "capitalize" => some fun v _ => mapText capitalize v
  | "trim" => some fun v _ => mapText (trim isBlank) v
  | "string" => some fun v _ => mapText id v
  | "length" | "count" => some fun v _ => return .json (.int (← v.size))
  | "default" | "d" => some fun v arguments =>
    match v with
    | .undefined _ => return arguments.headD (.text "")
    | v => do
      match arguments with
      | [initial, wanted] => if (← wanted.truthy) && !(← v.truthy) then return initial else return v
      | _ => return v
  | "first" => some fun v _ => do
    return (← v.items).head?.getD (.undefined "No first item, sequence was empty.")
  | "last" => some fun v _ => do
    return (← v.items).getLast?.getD (.undefined "No last item, sequence was empty.")
  | "list" => some fun v _ => return .ofItems (← v.items)
  | "join" => some fun v arguments => do
    let separator ← (arguments.headD (.text "")).display
    return .text (joinStrings separator (← (← v.items).mapM Value.display))
  | "escape" | "e" => some fun v _ => return .markup (← v.displayEscaped)
  | "safe" => some fun v _ => return .markup (← v.display)
  | _ => none

/-- The filters that are known by name. -/
def filterNames : List String :=
  ["abs", "attr", "batch", "capitalize", "center", "count", "d", "default", "dictsort", "e",
   "escape", "filesizeformat", "first", "float", "forceescape", "format", "groupby", "indent",
   "int", "items", "join", "last", "length", "list", "lower", "map", "max", "min", "pprint",
   "random", "reject", "rejectattr", "replace", "reverse", "round", "safe", "select", "selectattr",
   "slice", "sort", "string", "striptags", "sum", "title", "tojson", "trim", "truncate", "unique",
   "upper", "urlencode", "urlize", "wordcount", "wordwrap", "xmlattr"]

/-! ## Tests -/

/-- The remainder of an integer by another one. -/
def Value.remainder (v : Value) (divisor : Int) : Use Int := do
  match ← Operator.remainder.apply v (.json (.int divisor)) with
  | .json (.int i) => return i
  | _ => throw (.unsupported "%")

/-- The comparison that a test makes with its argument. -/
def testComparison? (name : String) : Option Comparison :=
  match name with
  | "eq" | "equalto" => some .equal
  | "ne" => some .notEqual
  | "lt" | "lessthan" => some .less
  | "le" => some .lessOrEqual
  | "gt" | "greaterthan" => some .greater
  | "ge" => some .greaterOrEqual
  | "in" => some .isIn
  | _ => none

/-- Whether a value is of one of some kinds of JSON. -/
def Value.isOf (kinds : List Json.Kind) : Value → Bool
  | .json v => kinds.contains v.kind
  | _ => false

/-- The tests without an argument by their names. -/
def builtinTest? (name : String) : Option (Value → Use Bool) :=
  let plain (p : Value → Bool) : Option (Value → Use Bool) := some fun v => .ok (p v)
  match name with
  | "none" => plain (·.isOf [.null])
  | "defined" => plain fun | .undefined _ => false | _ => true
  | "undefined" => plain fun | .undefined _ => true | _ => false
  | "boolean" => plain (·.isOf [.bool])
  | "true" => plain fun | .json (.bool true) => true | _ => false
  | "false" => plain fun | .json (.bool false) => true | _ => false
  | "integer" => plain (·.isOf [.int])
  | "float" => plain (·.isOf [.float])
  | "number" => plain (·.isOf [.int, .float, .bool])
  | "string" => plain fun v => v.isOf [.str] || v.isMarkup
  | "mapping" => plain (·.isOf [.obj])
  | "odd" => some fun v => return (← v.remainder 2) == 1
  | "even" => some fun v => return (← v.remainder 2) == 0
  | "callable" => plain fun | .method _ _ | .type _ | .function _ => true | _ => false
  | "iterable" => some fun
    | .undefined message => .error (.missing message)
    | v => .ok (v.items?.isSome || v.typeName == "LoopContext")
  | "sequence" => some fun
    | .undefined message => .error (.missing message)
    | .sequence kind _ => .ok (kind = .list || kind = .tuple)
    | v => .ok v.items?.isSome
  | _ => none

/-- The tests that are known by name. -/
def testNames : List String :=
  ["odd", "even", "divisibleby", "defined", "undefined", "filter", "test", "none", "boolean",
   "false", "true", "integer", "float", "lower", "upper", "string", "mapping", "number", "sequence",
   "iterable", "callable", "sameas", "escaped", "in", "eq", "equalto", "ne", "gt", "greaterthan",
   "ge", "lt", "lessthan", "le"]

/-- What a test says of a value. -/
def applyTest (name : String) (v : Value) (arguments : List Value) : Use Bool :=
  match builtinTest? name, testComparison? name, arguments with
  | some test, _, [] => test v
  | none, some comparison, [w] => v.meets comparison w
  | none, none, [.json (.int divisor)] =>
    if name = "divisibleby" then do return (← v.remainder divisor) == 0
    else .error (.unsupported ("the test " ++ name))
  | _, _, _ => .error (.unsupported ("the test " ++ name))

/-! ## Calls -/

/-- The range that arguments stand for. -/
def rangeOf (arguments : List Value) : Use Value :=
  match arguments.mapM Value.integer? with
  | some [stop] => .ok (.range 0 stop 1)
  | some [start, stop] => .ok (.range start stop 1)
  | some [start, stop, step] =>
    if step = 0 then .error (.content "range() arg 3 must not be zero")
    else .ok (.range start stop step)
  | _ => .error (.unsupported "such a range")

/-- What a method gives. -/
def callMethod (owner : Value) (name : String) (arguments : List Value) : Use Value :=
  let ofFields (kind : SequenceKind) (item : String × Json → Value) (fields : Json.Fields) :=
    Value.sequence kind (fields.map item)
  match owner, name, arguments with
  | .json (.obj fields), "items", [] =>
    .ok (ofFields .items (fun f => .sequence .tuple [.text f.1, .json f.2]) fields)
  | .json (.obj fields), "keys", [] => .ok (ofFields .keys (fun f => .text f.1) fields)
  | .json (.obj fields), "values", [] => .ok (ofFields .values (fun f => .json f.2) fields)
  | .json (.obj fields), "get", .json (.str key) :: initial =>
    .ok (((fields.lookup key).map Value.json).getD (initial.headD (.json .null)))
  | .json (.str _), "upper", [] => mapText toUpper owner
  | .json (.str _), "lower", [] => mapText toLower owner
  | .json (.str _), "capitalize", [] => mapText capitalize owner
  | .json (.str _), "strip", [] => mapText (trim isBlank) owner
  | .loop _ _, "cycle", [] => .error (.type "no items for cycling given")
  | .loop index _, "cycle", items => .ok ((items[index % items.length]?).getD default)
  | _, name, _ => .error (.unsupported ("the method " ++ name))

/-- What calling a value gives. -/
def Value.call (v : Value) (arguments : List Value) : Use Value :=
  match v with
  | .undefined message => .error (.missing message)
  | .type "range" => rangeOf arguments
  | .method owner name => callMethod owner name arguments
  | .type name => .error (.unsupported ("calling " ++ name))
  | .function name => .error (.unsupported ("calling " ++ name))
  | v => .error (.type ("'" ++ v.typeName ++ "' object is not callable"))

end Phrasebook.Template
