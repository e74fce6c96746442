-- SUMMARY: Templates from tokens: expressions, and the nesting of branches and loops.
import Phrasebook.Template.Basic
import Phrasebook.Template.Scanner

/-!
# Reading templates

Operators bind from `or` over `and`, `not`, comparisons, sums, `~` and products
to powers, signs, and what follows a value: members, calls, filters and tests.
Tags open and close branches and loops. Reading looks at one token, or two, and
a fault of scanning counts when its place is reached.
-/

namespace Phrasebook.Template

/-- Why the text of a template cannot be used. -/
inductive SourceFault where
  | malformed (fault : Malformed)
  /-- A tag that nothing is known to do for. -/
  | unsupportedTag (name : String)
  deriving DecidableEq, Repr

def SourceFault.message : SourceFault → String
  | .malformed fault => fault.message
  | .unsupportedTag name => "the tag " ++ Text.quoted name ++ " is not supported"

/-! ## Tokens -/

/-- A reader of tokens. -/
abbrev Parser := StateT Stream (Except SourceFault)

namespace Parser

def fail {α : Type} (fault : Malformed) : Parser α :=
  throw (.malformed fault)

/-- Make sure that the first token is there, unless the source has come to its end. -/
def check : Parser Unit := do
  let s ← get
  match s.tokens, s.fault with
  | [], some fault => fail fault
  | _, _ => return

/-- The token that comes next. -/
def current : Parser (Option Lexeme) := do
  return (← get).tokens.head?.map Token.lexeme

def currentLine : Parser Nat := do
  return ((← get).tokens.head?.map Token.line).getD 0

/-- Go on to the token after the next one. -/
def advance : Parser Unit := do
  modify fun s => { s with tokens := s.tokens.drop 1 }
  check

/-- The token after the next one. -/
def lookAhead : Parser (Option Lexeme) := do
  let s ← get
  match s.tokens, s.fault with
  | _ :: token :: _, _ => return some token.lexeme
  | [_], some fault => fail fault
  | _, _ => return none

/-- What messages say for the token that comes next. -/
def found : Parser String := do
  return ((← current).map Lexeme.description).getD endDescription

def failExpected {α : Type} (description : String) : Parser α := do
  fail (.expected description ((← current).map Lexeme.description))

/-- Pass a token that has to come next. -/
def expect (lexeme : Lexeme) : Parser Unit := do
  if (← current) = some lexeme then advance else failExpected lexeme.description

/-- Pass a token if it comes next, and tell whether it did. -/
def skip (lexeme : Lexeme) : Parser Bool := do
  if (← current) = some lexeme then
    advance
    return true
  else return false

/-- Pass a name, which has to come next. -/
def expectName : Parser String := do
  match ← current with
  | some (.name name) =>
    advance
    return name
  | _ => failExpected "name"

/-- Take a step again and again as long as it applies, but no more often than the first argument
says. -/
def repeated {α : Type} (step : α → Parser (Option α)) : Nat → α → Parser α
  | 0, a => return a
  | fuel + 1, a => do
    match ← step a with
    | none => return a
    | some a => repeated step fuel a

/-- Take a step again and again as long as it applies. Each step passes a token. -/
def whileApplies {α : Type} (step : α → Parser (Option α)) (a : α) : Parser α := do
  repeated step ((← get).tokens.length + 1) a

/-- Operands with operators between them, which combine what is on their left with the next one. -/
def leftToRight (operand : Parser Expr) (combine? : Lexeme → Option (Expr → Expr → Expr)) :
    Parser Expr := do
  whileApplies (fun left => do
    match (← current).bind combine? with
    | none => return none
    | some combine =>
      advance
      return some (combine left (← operand))) (← operand)

end Parser

open Phrasebook.Template.Parser

/-! ## Lists of expressions -/

/-- Whether a list of expressions without brackets ends at a token. -/
def endsTuple : Option Lexeme → Bool
  | some .outputEnd => true
  | some .tagEnd => true
  | some (.sign ")") => true
  | _ => false

/-- The expressions so far, and whether another one can follow. -/
structure Listing where
  items : List Expr := []
  isTuple : Bool := false
  isOpen : Bool := true

/-- An expression, or several with commas after them. There can be none in parentheses only. -/
def tuple (item : Parser Expr) (parenthesized : Bool) : Parser Expr := do
  let listing ← whileApplies (fun (l : Listing) => do
    if !l.isOpen then return none
    if !l.items.isEmpty then expect (.sign ",")
    if endsTuple (← current) then return none
    let items := l.items ++ [← item]
    let more := (← current) = some (.sign ",")
    return some { items, isTuple := l.isTuple || more, isOpen := more }) {}
  match listing with
  | { items := [e], isTuple := false, .. } => return e
  | { items := [], isTuple := false, .. } =>
    if parenthesized then return .tuple [] else fail (.noExpression (← found))
  | { items, .. } => return .tuple items

/-- Things with commas between them, and possibly one at the end, up to a closing bracket. -/
def listed {α : Type} (closing : String) (item : Parser α) : Parser (List α) := do
  let items ← whileApplies (fun items => do
    if (← current) = some (.sign closing) then return none
    if !items.isEmpty then expect (.sign ",")
    if (← current) = some (.sign closing) then return none
    return some (items ++ [← item])) []
  expect (.sign closing)
  return items

/-! ## Values -/

/-- The constant that a name is. -/
def constant? (name : String) : Option Json :=
  match name with
  | "true" | "True" => some (.bool true)
  | "false" | "False" => some (.bool false)
  | "none" | "None" => some .null
  | _ => none

def objectMember (expression : Parser Expr) : Parser (Expr × Expr) := do
  let key ← expression
  expect (.sign ":")
  return (key, ← expression)

/-- A constant, a name, or what brackets enclose. -/
def primary (expression : Parser Expr) : Parser Expr := do
  match ← current with
  | some (.name name) =>
    advance
    return ((constant? name).map Expr.constant).getD (.name name)
  | some (.text s) =>
    advance
    let s ← whileApplies (fun s => do
      match ← current with
      | some (.text more) =>
        advance
        return some (s ++ more)
      | _ => return none) s
    return .constant (.str s)
  | some (.integer n) =>
    advance
    return .constant (.int n)
  | some (.decimal x) =>
    advance
    return .constant (.float x)
  | some (.sign "(") =>
    advance
    let e ← tuple expression true
    expect (.sign ")")
    return e
  | some (.sign "[") =>
    advance
    return .list (← listed "]" expression)
  | some (.sign "\x7b") =>
    advance
    return .object (← listed "\x7d" (objectMember expression))
  | _ => fail (.unexpected (← found))

/-! ## What follows a value -/

/-- Whether an argument can stand after others. -/
def Handover.mayFollow (before : List Handover) : Handover → Bool
  | .positional => before.all (· == .positional)
  | .named _ => !before.contains .spreadNamed
  | .spread => !before.contains .spread && !before.contains .spreadNamed
  | .spreadNamed => !before.contains .spreadNamed

/-- How the next argument is handed over. What says so is passed. -/
def handover (before : List Handover) : Parser Handover := do
  let way ← match ← current with
    | some (.sign "*") => pure .spread
    | some (.sign "**") => pure .spreadNamed
    | some (.name name) =>
      pure (if (← lookAhead) = some (.sign "=") then .named name else .positional)
    | _ => pure .positional
  if !way.mayFollow before then fail .arguments
  match way with
  | .positional => pure ()
  | .named _ =>
    advance
    advance
  | _ => advance
  return way

/-- Arguments in parentheses. -/
def arguments (expression : Parser Expr) : Parser (List (Handover × Expr)) := do
  expect (.sign "(")
  let items ← whileApplies (fun items => do
    if (← current) = some (.sign ")") then return none
    if !items.isEmpty then expect (.sign ",")
    if (← current) = some (.sign ")") then return none
    let way ← handover (items.map Prod.fst)
    return some (items ++ [(way, ← expression)])) []
  expect (.sign ")")
  return items

/-- Whether a part of a slice is left out before a token. -/
def endsSlicePart : Option Lexeme → Bool
  | some (.sign "]") => true
  | some (.sign ",") => true
  | _ => false

/-- An index, or the parts of a slice. -/
def index (expression : Parser Expr) : Parser Expr := do
  let start? ← if (← current) = some (.sign ":") then pure none else some <$> expression
  if (← current) = some (.sign ":") then
    advance
    let part : Parser Expr := do
      if endsSlicePart (← current) then return .constant .null else expression
    let stop ← if (← current) = some (.sign ":") then pure (.constant .null) else part
    let step ← if ← skip (.sign ":") then part else pure (.constant .null)
    return .slice (start?.getD (.constant .null)) stop step
  else return start?.getD (.constant .null)

/-- A member after a point. -/
def memberOf (e : Expr) : Parser Expr := do
  advance
  match ← current with
  | some (.name name) =>
    advance
    return .member e name
  | some (.integer n) =>
    advance
    return .item e (.constant (.int n))
  | _ =>
    advance
    fail .noMember

/-- A member in brackets. -/
def itemOf (expression : Parser Expr) (e : Expr) : Parser Expr := do
  advance
  let indices ← whileApplies (fun items => do
    if (← current) = some (.sign "]") then return none
    if !items.isEmpty then expect (.sign ",")
    return some (items ++ [← index expression])) []
  expect (.sign "]")
  match indices with
  | [i] => return .item e i
  | _ => return .item e (.tuple indices)

/-- Members and calls after a value. -/
def postfixes (expression : Parser Expr) (e : Expr) : Parser Expr :=
  whileApplies (fun e => do
    match ← current with
    | some (.sign ".") => some <$> memberOf e
    | some (.sign "[") => some <$> itemOf expression e
    | some (.sign "(") => return some (.call e (← arguments expression))
    | _ => return none) e

/-- A name, possibly of several parts with points between them. -/
def dottedName : Parser String := do
  whileApplies (fun name => do
    if ← skip (.sign ".") then return some (name ++ "." ++ (← expectName)) else return none)
    (← expectName)

/-- Whether a token begins the argument of a test that has no parentheses. -/
def beginsArgument : Option Lexeme → Bool
  | some (.name name) => name != "else" && name != "or" && name != "and"
  | some (.text _) => true
  | some (.integer _) => true
  | some (.decimal _) => true
  | some (.sign s) => s = "[" || s = "\x7b"
  | _ => false

/-- The test after `is`. -/
def testOf (expression : Parser Expr) (e : Expr) : Parser Expr := do
  advance
  let negated ← skip (.name "not")
  let name ← dottedName
  let given ← do
    if (← current) = some (.sign "(") then arguments expression
    else if beginsArgument (← current) then
      if (← current) = some (.name "is") then fail .chainedTests
      pure [(.positional, ← postfixes expression (← primary expression))]
    else pure []
  let test := Expr.test e name given
  return if negated then .negation test else test

/-- The filter after a bar. -/
def filterOf (expression : Parser Expr) (e : Expr) : Parser Expr := do
  advance
  let name ← dottedName
  let given ← do
    if (← current) = some (.sign "(") then arguments expression else pure []
  return .filter e name given

/-- Filters, tests and calls of what comes of them. -/
def filtersAndTests (expression : Parser Expr) (e : Expr) : Parser Expr :=
  whileApplies (fun e => do
    match ← current with
    | some (.sign "|") => some <$> filterOf expression e
    | some (.name "is") => some <$> testOf expression e
    | some (.sign "(") => return some (.call e (← arguments expression))
    | _ => return none) e

/-! ## Operators -/

/-- A value with its signs and with all that follows it. -/
def signed (expression : Parser Expr) : Parser Expr := do
  let signs ← whileApplies (fun signs => do
    if ← skip (.sign "-") then return some (true :: signs)
    else if ← skip (.sign "+") then return some (false :: signs)
    else return none) []
  let e ← postfixes expression (← primary expression)
  filtersAndTests expression (signs.foldl (fun e negative => .signed negative e) e)

def power (expression : Parser Expr) : Parser Expr :=
  leftToRight (signed expression) fun
    | .sign "**" => some (.operation .power)
    | _ => none

def product (expression : Parser Expr) : Parser Expr :=
  leftToRight (power expression) fun
    | .sign "*" => some (.operation .multiply)
    | .sign "/" => some (.operation .divide)
    | .sign "//" => some (.operation .floorDivide)
    | .sign "%" => some (.operation .remainder)
    | _ => none

def joinedTexts (expression : Parser Expr) : Parser Expr := do
  let items ← whileApplies (fun items => do
    if ← skip (.sign "~") then return some (items ++ [← product expression]) else return none)
    [← product expression]
  match items with
  | [e] => return e
  | items => return .joined items

def sum (expression : Parser Expr) : Parser Expr :=
  leftToRight (joinedTexts expression) fun
    | .sign "+" => some (.operation .add)
    | .sign "-" => some (.operation .subtract)
    | _ => none

/-- The comparison that a sign stands for. -/
def comparison? (sign : String) : Option Comparison :=
  match sign with
  | "==" => some .equal
  | "!=" => some .notEqual
  | "<" => some .less
  | "<=" => some .lessOrEqual
  | ">" => some .greater
  | ">=" => some .greaterOrEqual
  | _ => none

/-- The comparison that comes next. What stands for it is passed. -/
def comparisonStep : Parser (Option Comparison) := do
  match ← current with
  | some (.sign sign) =>
    match comparison? sign with
    | some comparison =>
      advance
      return some comparison
    | none => return none
  | some (.name "in") =>
    advance
    return some .isIn
  | some (.name "not") =>
    if (← lookAhead) = some (.name "in") then
      advance
      advance
      return some .isNotIn
    else return none
  | _ => return none

def comparison (expression : Parser Expr) : Parser Expr := do
  let e ← sum expression
  let steps ← whileApplies (fun steps => do
    match ← comparisonStep with
    | none => return none
    | some comparison => return some (steps ++ [(comparison, ← sum expression)])) []
  return if steps.isEmpty then e else .comparison e steps

def negated (expression : Parser Expr) : Parser Expr := do
  let count ← whileApplies (fun count => do
    if ← skip (.name "not") then return some (count + 1) else return none) 0
  return Nat.repeat Expr.negation count (← comparison expression)

def conjunction (expression : Parser Expr) : Parser Expr :=
  leftToRight (negated expression) fun
    | .name "and" => some .both
    | _ => none

def disjunction (expression : Parser Expr) : Parser Expr :=
  leftToRight (conjunction expression) fun
    | .name "or" => some .either
    | _ => none

/-- A value, or one of two that a condition between them chooses. -/
def choice (expression : Parser Expr) : Parser Expr := do
  let line ← currentLine
  whileApplies (fun yes => do
    if ← skip (.name "if") then
      let condition ← disjunction expression
      let no ← if ← skip (.name "else") then expression else pure (.absent line)
      return some (.choice condition yes no)
    else return none) (← disjunction expression)

/-- An expression. The argument bounds how deeply expressions are nested. -/
def expression : Nat → Parser Expr
  | 0 => fail (.unexpected endDescription)
  | fuel + 1 => choice (expression fuel)

/-! ## Tags -/

/-- The inside of a tag of a name. -/
def Nesting.enter (around : Nesting) (name : String) : Nesting :=
  { around with names := name :: around.names }

/-- The inside of a tag that one of the given tags ends. -/
def Nesting.until (around : Nesting) (ends : List String) : Nesting :=
  { around with ends := ends :: around.ends }

/-- Whether a tag of a name ends the innermost part. -/
def Nesting.endsAt (around : Nesting) : Option Lexeme → Bool
  | some (.name name) => (around.ends.head?.getD []).contains name
  | _ => false

/-- The tags that are known but not supported. -/
def unsupportedTags : List String :=
  ["block", "extends", "print", "macro", "include", "from", "import", "set", "with", "autoescape",
   "call", "filter"]

/-- How the parts of tags are read. -/
structure Readers where
  expression : Parser Expr
  /-- The nodes inside of some tags. -/
  nodes : Nesting → Parser (List Node)

/-- The nodes of a part of a tag, up to the name of the tag that ends it. -/
def Readers.part (r : Readers) (around : Nesting) (ends : List String) : Parser (List Node) := do
  let _ ← skip (.sign ":")
  expect .tagEnd
  let inside := around.until ends
  let nodes ← r.nodes inside
  if (← current).isNone then fail (.nesting none inside)
  return nodes

/-- The condition of a branch, and its nodes. -/
def Readers.case (r : Readers) (around : Nesting) : Parser (Expr × List Node) := do
  let condition ← tuple (disjunction r.expression) false
  return (condition, ← r.part around ["elif", "else", "endif"])

/-- A branch, each further case of which is a branch of what is left. -/
def branchOf (cases : List (Expr × List Node)) (otherwise : List Node) : List Node :=
  cases.foldr (fun (condition, yes) no => [.branch condition yes no]) otherwise

/-- The branches that a tag opens, from its name to the name of the tag that ends them. -/
def Readers.branch (r : Readers) (around : Nesting) : Parser (List Node) := do
  advance
  let inside := around.enter "if"
  let cases ← whileApplies (fun cases => do
    if ← skip (.name "elif") then return some (cases ++ [← r.case inside]) else return none)
    [← r.case inside]
  let otherwise ← if ← skip (.name "else") then r.part inside ["endif"] else pure []
  advance
  return branchOf cases otherwise

mutual

/-- What an expression is to the items of a loop. -/
def Expr.target : Expr → Except String Target
  | .name name => .ok (.name name)
  | .tuple items => do return .tuple (← targetsOf items)
  | .constant _ => .error "const"
  | .list _ => .error "list"
  | .object _ => .error "dict"
  | _ => .error "expression"

def targetsOf : List Expr → Except String (List Target)
  | [] => .ok []
  | e :: es => do
    let target ← e.target
    let targets ← targetsOf es
    return target :: targets

end

/-- What the items of a loop are bound to. A list of expressions is as good as its worst member. -/
def loopTarget (expression : Parser Expr) : Parser Target := do
  let e ← tuple (primary expression) false
  match e, e.target with
  | _, .ok target => return target
  | .tuple _, .error _ => fail (.target "tuple")
  | _, .error kind => fail (.target kind)

/-- The loop that a tag opens, from its name to the name of the tag that ends it. -/
def Readers.loop (r : Readers) (around : Nesting) : Parser (List Node) := do
  advance
  let inside := around.enter "for"
  let target ← loopTarget r.expression
  expect (.name "in")
  let items ← tuple (disjunction r.expression) false
  let condition ← if ← skip (.name "if") then r.expression else pure (.constant (.bool true))
  let _ ← skip (.name "recursive")
  let body ← r.part inside ["endfor", "else"]
  let otherwise ← if ← skip (.name "else") then r.part inside ["endfor"] else pure []
  advance
  return [.each target items condition body otherwise]

/-- The nodes that a tag opens. -/
def Readers.tag (r : Readers) (around : Nesting) : Parser (List Node) := do
  match ← current with
  | some (.name "if") => r.branch around
  | some (.name "for") => r.loop around
  | some (.name name) =>
    if unsupportedTags.contains name then throw (.unsupportedTag name)
    else fail (.nesting (some name) around)
  | _ => fail .noTag

/-- The next node, unless the innermost part ends. -/
def Readers.step (r : Readers) (around : Nesting) (nodes : List Node) :
    Parser (Option (List Node)) := do
  match ← current with
  | some (.data s) =>
    advance
    return some (nodes ++ [.text s])
  | some .outputBegin =>
    advance
    let e ← tuple r.expression false
    expect .outputEnd
    return some (nodes ++ [.output e])
  | some .tagBegin =>
    advance
    if around.endsAt (← current) then return none
    let more ← r.tag around
    expect .tagEnd
    return some (nodes ++ more)
  | _ => return none

/-- The nodes inside of some tags. The argument bounds how deeply tags are nested. -/
def nodesWithin : Nat → Nesting → Parser (List Node)
  | 0, _ => fail (.unexpected endDescription)
  | fuel + 1, around => do
    let depth := (← get).tokens.length + 1
    whileApplies (Readers.step ⟨expression depth, nodesWithin fuel⟩ around) []

/-- The template of a text. -/
def parse (source : String) : Except SourceFault Template := do
  let stream := scan source
  let all : Parser Template := do
    check
    nodesWithin (stream.tokens.length + 1) {}
  all.run' stream

end Phrasebook.Template
