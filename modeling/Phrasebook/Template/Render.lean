-- SUMMARY: Rendering templates in a context.
import Phrasebook.Template.Builtin
import Phrasebook.Template.Names
import Phrasebook.Template.Parser

/-!
# Rendering templates

What the context does not hold may be tested, but any other use of it is a
fault. Needed filters and tests are looked for before anything is rendered,
those in branches when they are reached.
-/

namespace Phrasebook.Template

open Text

/-! ## Environments -/

/-- A filter of an engine's own turns a value into a text. -/
abbrev Filter := Json → Use String

/-- What a template is rendered with. -/
structure Environment where
  filters : List (String × Filter) := []
  /-- The name of the template. -/
  name : Option String := none
  /-- Whether outputs are written for use in a markup text. -/
  escaping : Bool := false
  context : List (String × Value) := []
  /-- How far the values of outputs are shown. -/
  limit : Option Json.Limit := none

namespace Environment

def bind (env : Environment) (name : String) (v : Value) : Environment :=
  { env with context := (name, v) :: env.context }

/-- The value of a name. -/
def lookup (env : Environment) (name : String) : Value :=
  if name = "self" then .template env.name
  else
    match env.context.lookup name, globals.lookup name with
    | some v, _ => v
    | none, some v => v
    | none, none => .undefined (quoted name ++ " is undefined")

/-- Whether something that a template needs is there. -/
def provides (env : Environment) : Need → Bool
  | .filter name => (env.filters.lookup name).isSome || filterNames.contains name
  | .test name => testNames.contains name
  | .loopTarget => false

/-- A value as outputs write it. -/
def write (env : Environment) (v : Value) : Use String :=
  match v.unshown? env.limit with
  | some cause => .error (.unshown cause)
  | none => if env.escaping then v.displayEscaped else v.display

/-- What a filter makes of a value. -/
def filter (env : Environment) (name : String) (v : Value) (arguments : List Value) : Use Value :=
  match env.filters.lookup name, builtinFilter? name, arguments with
  | some filter, _, [] => do return .text (← filter (← v.toJson))
  | some _, _, _ => .error (.unsupported ("an argument of the filter " ++ name))
  | none, some filter, arguments => filter v arguments
  | none, none, _ =>
    if filterNames.contains name then .error (.unsupported ("the filter " ++ name))
    else .error (.noFilter name)

/-- What a test says of a value. -/
def test (_ : Environment) (name : String) (v : Value) (arguments : List Value) : Use Bool :=
  if testNames.contains name then applyTest name v arguments else .error (.noTest name)

end Environment

/-! ## Expressions -/

/-- The arguments that are handed over by their places. -/
def positionalArguments : List (Handover × Value) → Use (List Value)
  | [] => .ok []
  | (.positional, v) :: arguments => do return v :: (← positionalArguments arguments)
  | _ => .error (.unsupported "an argument by name")

/-- The object of some members. -/
def objectOf : List (Value × Value) → Use Json.Fields
  | [] => .ok []
  | (.json (.str key), .json v) :: members => do return (key, v) :: (← objectOf members)
  | _ => .error (.unsupported "such an object")

/-- What a choice without a second value stands for when its condition fails. -/
def absentChoice (name : Option String) (line : Nat) : Value :=
  let place := "line " ++ toString line ++ ((name.map fun n => " in " ++ quoted n).getD "")
  .undefined ("the inline if-expression on " ++ place
    ++ " evaluated to false and no else section was defined.")

mutual

/-- What an expression stands for. -/
def Expr.value (env : Environment) : Expr → Use Value
  | .name name => .ok (env.lookup name)
  | .constant v => .ok (.json v)
  | .list items => do return .ofItems (← valuesOf env items)
  | .tuple items => do return .sequence .tuple (← valuesOf env items)
  | .object members => do
    return .json (.obj (Json.Fields.ofMembers (← objectOf (← membersOf env members))))
  | .member e name => do (← e.value env).member name
  | .item e index => do
    let v ← e.value env
    v.item (← index.value env)
  | .slice _ _ _ => .error (.unsupported "a slice")
  | .call e arguments => do
    let v ← e.value env
    v.call (← positionalArguments (← argumentsOf env arguments))
  | .filter e name arguments => do
    let v ← e.value env
    env.filter name v (← positionalArguments (← argumentsOf env arguments))
  | .test e name arguments => do
    let v ← e.value env
    return .json (.bool (← env.test name v (← positionalArguments (← argumentsOf env arguments))))
  | .negation e => do return .json (.bool !(← (← e.value env).truthy))
  | .signed negative e => do (← e.value env).signed negative
  | .operation operator left right => do
    let v ← left.value env
    operator.apply v (← right.value env)
  | .joined items => do joinValues env.escaping (← valuesOf env items)
  | .comparison e steps => do
    let v ← e.value env
    return .json (.bool (← stepsHold env v steps))
  | .both left right => do
    let v ← left.value env
    if ← v.truthy then right.value env else return v
  | .either left right => do
    let v ← left.value env
    if ← v.truthy then return v else right.value env
  | .choice condition yes no => do
    if ← (← condition.value env).truthy then yes.value env else no.value env
  | .absent line => .ok (absentChoice env.name line)

def valuesOf (env : Environment) : List Expr → Use (List Value)
  | [] => .ok []
  | e :: es => do
    let v ← e.value env
    let vs ← valuesOf env es
    return v :: vs

def membersOf (env : Environment) : List (Expr × Expr) → Use (List (Value × Value))
  | [] => .ok []
  | (key, e) :: members => do
    let k ← key.value env
    let v ← e.value env
    let vs ← membersOf env members
    return (k, v) :: vs

def argumentsOf (env : Environment) : List (Handover × Expr) → Use (List (Handover × Value))
  | [] => .ok []
  | (way, e) :: arguments => do
    let v ← e.value env
    let vs ← argumentsOf env arguments
    return (way, v) :: vs

/-- Whether each comparison holds between the value before it and its own. -/
def stepsHold (env : Environment) (v : Value) : List (Comparison × Expr) → Use Bool
  | [] => .ok true
  | (comparison, e) :: steps => do
    let w ← e.value env
    if ← v.meets comparison w then stepsHold env w steps else return false

end

/-! ## Binding items -/

/-- The items of a value that several names are bound to. -/
def unpack (v : Value) (count : Nat) : Use (List Value) :=
  match v, v.items? with
  | .undefined message, _ => .error (.missing message)
  | _, some items =>
    if items.length < count then
      .error (.content ("not enough values to unpack (expected " ++ toString count ++ ", got "
        ++ toString items.length ++ ")"))
    else if count < items.length then
      .error (.content ("too many values to unpack (expected " ++ toString count ++ ")"))
    else .ok items
  | v, none => .error (.type ("cannot unpack non-iterable " ++ v.typeName ++ " object"))

mutual

/-- An environment in which a target stands for a value. -/
def Target.bind (env : Environment) (v : Value) : Target → Use Environment
  | .name name => .ok (env.bind name v)
  | .tuple targets => do bindAll env (← unpack v targets.length) targets

def bindAll (env : Environment) : List Value → List Target → Use Environment
  | v :: vs, target :: targets => do bindAll (← target.bind env v) vs targets
  | _, _ => .ok env

end

/-- The items that meet the condition of a loop. -/
def itemsWith (env : Environment) (target : Target) (condition : Expr) :
    List Value → Use (List Value)
  | [] => .ok []
  | v :: vs => do
    let holds ← (← condition.value (← target.bind env v)).truthy
    let more ← itemsWith env target condition vs
    return if holds then v :: more else more

/-! ## Nodes -/

mutual

def renderNode (env : Environment) : Node → Use String
  | .text s => .ok s
  | .output e => do env.write (← e.value env)
  | .branch condition yes no => do
    if ← (← condition.value env).truthy then renderNodes env yes else renderNodes env no
  | .each target items condition body otherwise => do
    let items ← itemsWith env target condition (← (← items.value env).items)
    if items.isEmpty then renderNodes env otherwise
    else
      let texts ← items.zipIdx.mapM fun (v, i) => do
        renderNodes (← target.bind (env.bind "loop" (.loop i items)) v) body
      return joinStrings "" texts

def renderNodes (env : Environment) : List Node → Use String
  | [] => .ok ""
  | node :: rest => do
    let text ← renderNode env node
    let more ← renderNodes env rest
    return text ++ more

end

/-! ## Templates -/

/-- Why a template cannot be rendered. -/
inductive Fault where
  | source (fault : SourceFault)
  | need (need : Need)
  /-- The context has a name that stands for the template itself. -/
  | reservedName (name : String)
  | use (fault : UseFault)
  | notFound (name : String)
  deriving DecidableEq, Repr

def Need.message : Need → String
  | .filter name => "No filter named " ++ quoted name ++ "."
  | .test name => "No test named " ++ quoted name ++ "."
  | .loopTarget => Malformed.message .loopTarget

def Fault.message : Fault → String
  | .source fault => fault.message
  | .need wanted => wanted.message
  | .reservedName name => "Template.render() got multiple values for argument " ++ quoted name
  | .use fault => fault.message
  | .notFound name => name

/-- Render a template. -/
def render (env : Environment) (template : Template) : Except Fault String :=
  match (nodesNeed false template).find? (!env.provides ·) with
  | some need => .error (.need need)
  | none =>
    if env.context.any (·.1 = "self") then .error (.reservedName "self")
    else (renderNodes env template).mapError .use

end Phrasebook.Template
