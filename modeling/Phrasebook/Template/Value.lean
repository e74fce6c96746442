-- SUMMARY: What the expressions of templates stand for: values, and their members, items and texts.
import Phrasebook.Json.Display
import Phrasebook.Text.Quoted

/-!
# Values of expressions

Values are those of the context, lists and the like that a template makes of
them, the states of loops, and things that can be called. What is not there is a
value too, as long as nothing is done with it. A member under a name is looked
for among the members that all values of a kind have, and then among the fields
of an object.
-/

namespace Phrasebook.Template

open Text

/-! ## Faults -/

/-- Why an expression has no value, or nothing can be done with the value. -/
inductive UseFault where
  /-- Something that is not there is used. -/
  | missing (message : String)
  /-- The type of a value does not allow an operation. -/
  | type (message : String)
  /-- The content of a value does not allow an operation. -/
  | content (message : String)
  /-- A name that nothing is known under is come across. -/
  | noFilter (name : String)
  | noTest (name : String)
  /-- A value that is to be put out cannot be shown. -/
  | unshown (cause : Json.Unshown)
  /-- Nothing is known to do for an operation. -/
  | unsupported (operation : String)
  deriving DecidableEq, Repr

def UseFault.message : UseFault → String
  | .missing message => message
  | .type message => message
  | .content message => message
  | .noFilter name => "No filter named " ++ quoted name ++ " found."
  | .noTest name => "No test named " ++ quoted name ++ " found."
  | .unshown cause => cause.message
  | .unsupported operation => operation ++ " is not supported"

/-- What comes of using values. -/
abbrev Use := Except UseFault

/-! ## Values -/

/-- The kinds of sequences that templates make. -/
inductive SequenceKind where
  | list
  | tuple
  | keys
  | values
  | items
  deriving DecidableEq, Repr

def SequenceKind.word : SequenceKind → String
  | .list => "list"
  | .tuple => "tuple"
  | .keys => "dict_keys"
  | .values => "dict_values"
  | .items => "dict_items"

inductive Value where
  | json (v : Json)
  /-- A text that is written as it is where other texts are escaped. -/
  | markup (s : String)
  | sequence (kind : SequenceKind) (items : List Value)
  | range (start stop step : Int)
  /-- The state of a loop: the number of items passed, and all items. -/
  | loop (index : Nat) (items : List Value)
  | method (owner : Value) (name : String)
  | type (name : String)
  | function (name : String)
  /-- The template itself, by its name. -/
  | template (name : Option String)
  /-- Nothing. The message tells what has been looked for. -/
  | undefined (message : String)

namespace Value

instance : Inhabited Value := ⟨.json .null⟩

def text (s : String) : Value :=
  .json (.str s)

/-- The numbers of a range. -/
def rangeItems (start stop step : Int) : List Int :=
  let count := if 0 < step then (stop - start + step - 1) / step
    else (start - stop - step - 1) / (-step)
  (List.range count.toNat).map fun (i : Nat) => start + step * i

/-- The values that are all of JSON. -/
def jsons? : List Value → Option (List Json)
  | [] => some []
  | .json v :: items => (jsons? items).map (v :: ·)
  | _ :: _ => none

/-- A list of values. -/
def ofItems (items : List Value) : Value :=
  match jsons? items with
  | some items => .json (.arr items)
  | none => .sequence .list items

/-! ## Types -/

/-- The module of a type that does not belong to the language itself, and the name of the type. -/
def typeNames : Value → Option String × String
  | .json v => (none, v.kind.word)
  | .markup _ => (some "markupsafe", "Markup")
  | .sequence kind _ => (none, kind.word)
  | .range _ _ _ => (none, "range")
  | .loop _ _ => (some "jinja2.runtime", "LoopContext")
  | .method (.loop _ _) _ => (none, "method")
  | .method _ _ => (none, "builtin_function_or_method")
  | .type _ => (none, "type")
  | .function _ => (none, "function")
  | .template _ => (some "jinja2.runtime", "TemplateReference")
  | .undefined _ => (some "jinja2.runtime", "StrictUndefined")

/-- The name of the type of a value. -/
def typeName (v : Value) : String :=
  v.typeNames.2

/-- A value as messages about its members name it. -/
def objectWord (v : Value) : String :=
  match v, v.typeNames with
  | .json .null, _ => "None"
  | _, (some module, name) => module ++ "." ++ name ++ " object"
  | _, (none, name) => name ++ " object"

/-! ## Texts -/

mutual

/-- The quoted form of a value. -/
def quotedForm : Value → String
  | .json v => v.quotedForm
  | .markup s => "Markup(" ++ quoted s ++ ")"
  | .sequence .list items => "[" ++ joinStrings ", " (quotedForms items) ++ "]"
  | .sequence .tuple [item] => "(" ++ quotedForm item ++ ",)"
  | .sequence .tuple items => "(" ++ joinStrings ", " (quotedForms items) ++ ")"
  | .sequence kind items => kind.word ++ "([" ++ joinStrings ", " (quotedForms items) ++ "])"
  | .range start stop step =>
    "range(" ++ toString start ++ ", " ++ toString stop
      ++ (if step = 1 then "" else ", " ++ toString step) ++ ")"
  | .loop index items =>
    "<LoopContext " ++ toString (index + 1) ++ "/" ++ toString items.length ++ ">"
  | .method _ name => "<method " ++ name ++ ">"
  | .type name => "<class " ++ quoted name ++ ">"
  | .function name => "<function " ++ name ++ ">"
  | .template name => "<TemplateReference " ++ ((name.map quoted).getD "None") ++ ">"
  | .undefined _ => "Undefined"

def quotedForms : List Value → List String
  | [] => []
  | v :: vs => quotedForm v :: quotedForms vs

end

/-- A value as it is shown. -/
def display : Value → Use String
  | .json v => .ok v.display
  | .markup s => .ok s
  | .undefined message => .error (.missing message)
  | v => .ok v.quotedForm

/-- Why a value cannot be shown, if it cannot. -/
def unshown? (limit : Option Json.Limit) : Value → Option Json.Unshown
  | .json v => v.unshown? limit
  | _ => none

/-! ## Truth and items -/

/-- Whether a value counts as true. -/
def truthy : Value → Use Bool
  | .json v => .ok v.truthy
  | .markup s => .ok (s != "")
  | .sequence _ items => .ok !items.isEmpty
  | .range start stop step => .ok !(rangeItems start stop step).isEmpty
  | .loop _ items => .ok !items.isEmpty
  | .undefined message => .error (.missing message)
  | _ => .ok true

/-- The items of a value, if it has any: of a list, the characters of a text, the keys of an
object. -/
def items? : Value → Option (List Value)
  | .json (.arr items) => some (items.map .json)
  | .json (.str s) => some (s.toList.map fun c => text (String.singleton c))
  | .json (.obj fields) => some (fields.map fun f => text f.1)
  | .markup s => some (s.toList.map fun c => .markup (String.singleton c))
  | .sequence _ items => some items
  | .range start stop step => some ((rangeItems start stop step).map fun i => .json (.int i))
  | _ => none

/-- The items of a value, which has to have some. -/
def items (v : Value) : Use (List Value) :=
  match v, v.items? with
  | _, some items => .ok items
  | .undefined message, none => .error (.missing message)
  | .loop _ _, none => .error (.unsupported "going through a loop twice")
  | v, none => .error (.type ("'" ++ v.typeName ++ "' object is not iterable"))

mutual

/-- A value for a filter that only knows JSON. -/
def toJson : Value → Use Json
  | .json v => .ok v
  | .markup s => .ok (.str s)
  | .sequence _ items => do return .arr (← toJsons items)
  | .range start stop step => .ok (.arr ((rangeItems start stop step).map .int))
  | .undefined message => .error (.missing message)
  | .loop _ _ => .error (.unsupported "going through a loop twice")
  | v => .error (.type ("'" ++ v.typeName ++ "' object is not iterable"))

def toJsons : List Value → Use (List Json)
  | [] => .ok []
  | v :: vs => do
    let item ← toJson v
    let items ← toJsons vs
    return item :: items

end

/-! ## Members that all values of a kind have -/

/-- The methods of texts. -/
def textMethods : List String :=
  ["capitalize", "casefold", "center", "count", "encode", "endswith", "expandtabs", "find",
   "format", "format_map", "index", "isalnum", "isalpha", "isascii", "isdecimal", "isdigit",
   "isidentifier", "islower", "isnumeric", "isprintable", "isspace", "istitle", "isupper", "join",
   "ljust", "lower", "lstrip", "maketrans", "partition", "removeprefix", "removesuffix", "replace",
   "rfind", "rindex", "rjust", "rpartition", "rsplit", "rstrip", "split", "splitlines",
   "startswith", "strip", "swapcase", "title", "translate", "upper", "zfill"]

/-- The methods of integers and truth values. -/
def integerMethods : List String :=
  ["as_integer_ratio", "bit_count", "bit_length", "conjugate", "from_bytes", "to_bytes"]

/-- The methods of other numbers. -/
def decimalMethods : List String :=
  ["as_integer_ratio", "conjugate", "fromhex", "hex", "is_integer"]

def listMethods : List String :=
  ["append", "clear", "copy", "count", "extend", "index", "insert", "pop", "remove", "reverse",
   "sort"]

def objectMethods : List String :=
  ["clear", "copy", "fromkeys", "get", "items", "keys", "pop", "popitem", "setdefault", "update",
   "values"]

/-- The methods of sequences that cannot change. -/
def tupleMethods : List String :=
  ["count", "index"]

/-- The methods of the states of loops. -/
def loopMethods : List String :=
  ["changed", "cycle"]

/-- The methods of a value. -/
def methods : Value → List String
  | .json (.str _) => textMethods
  | .json (.int _) => integerMethods
  | .json (.bool _) => integerMethods
  | .json (.float _) => decimalMethods
  | .json (.arr _) => listMethods
  | .json (.obj _) => objectMethods
  | .markup _ => textMethods ++ ["escape", "striptags", "unescape"]
  | .sequence .list _ => listMethods
  | .sequence .tuple _ => tupleMethods
  | .range _ _ _ => tupleMethods
  | .loop _ _ => loopMethods
  | _ => []

/-- The parts of a number. -/
def numberPart? (v : Json) (name : String) : Option Json :=
  match v, name with
  | .int i, "real" | .int i, "numerator" => some (.int i)
  | .int _, "imag" => some (.int 0)
  | .int _, "denominator" => some (.int 1)
  | .bool b, "real" | .bool b, "numerator" => some (.int (if b then 1 else 0))
  | .bool _, "imag" => some (.int 0)
  | .bool _, "denominator" => some (.int 1)
  | .float x, "real" => some (.float x)
  | .float _, "imag" => some (.float (.finite false 0 Binary64.minExponent))
  | _, _ => none

/-- A member of the state of a loop. -/
def loopPart? (index : Nat) (items : List Value) (name : String) : Option Value :=
  let number (n : Nat) : Option Value := some (.json (.int n))
  match name with
  | "index" => number (index + 1)
  | "index0" => number index
  | "revindex" => number (items.length - index)
  | "revindex0" => number (items.length - index - 1)
  | "length" => number items.length
  | "depth" => number 1
  | "depth0" => number 0
  | "first" => some (.json (.bool (index == 0)))
  | "last" => some (.json (.bool (index + 1 == items.length)))
  | "previtem" =>
    some (if index = 0 then .undefined "there is no previous item"
      else (items[index - 1]?).getD default)
  | "nextitem" => some ((items[index + 1]?).getD (.undefined "there is no next item"))
  | _ => none

/-- The member that all values of the kind of a value have under a name. -/
def ownMember? (v : Value) (name : String) : Option Value :=
  let part := match v with
    | .json j => (numberPart? j name).map Value.json
    | .loop index items => loopPart? index items name
    | .range start _ _ => if name = "start" then some (.json (.int start)) else none
    | .type own => if name = "__name__" then some (text own) else none
    | _ => none
  match part with
  | some member => some member
  | none =>
    if v.methods.contains name then some (.method v name)
    else if name = "__class__" then some (.type v.typeName)
    else none

/-! ## Members and items -/

/-- The value of an integer or a truth value. -/
def integer? : Value → Option Int
  | .json (.int i) => some i
  | .json (.bool b) => some (if b then 1 else 0)
  | _ => none

/-- The item at a place, which counts from the end if it is negative. -/
def itemAt? (items : List Value) (i : Int) : Option Value :=
  if 0 ≤ i then items[i.toNat]?
  else if i.natAbs ≤ items.length then items[items.length - i.natAbs]?
  else none

/-- The item of a value under an index. -/
def item? (v index : Value) : Option Value :=
  match v, index with
  | .json (.obj fields), .json (.str key) => (fields.lookup key).map .json
  | .json (.obj _), _ => none
  | .sequence .keys _, _ | .sequence .values _, _ | .sequence .items _, _ => none
  | v, index => do itemAt? (← v.items?) (← index.integer?)

/-- What stands for a member that is not there. -/
def absent (v index : Value) : Value :=
  match index with
  | .json (.str name) => .undefined (quoted v.objectWord ++ " has no attribute " ++ quoted name)
  | index => .undefined (v.objectWord ++ " has no element " ++ index.quotedForm)

/-- The member of a value under a name. -/
def member (v : Value) (name : String) : Use Value :=
  match v with
  | .undefined message => .error (.missing message)
  | v => .ok ((v.ownMember? name).getD ((v.item? (text name)).getD (v.absent (text name))))

/-- The item of a value under an index, or its member under that name. -/
def item (v index : Value) : Use Value :=
  match v, index with
  | .undefined message, _ => .error (.missing message)
  | v, index =>
    let named := match index with
      | .json (.str name) => v.ownMember? name
      | _ => none
    .ok ((v.item? index).getD (named.getD (v.absent index)))

end Value

end Phrasebook.Template
