-- SUMMARY: Templates: text with expressions, choices and loops in it.
import Phrasebook.Json.Basic

/-!
# Templates

A template is a list of nodes: text, outputs of expressions, branches and loops.
Expressions name what the context holds, and work on it by operators, tests and
filters.
-/

namespace Phrasebook.Template

/-! ## Expressions -/

inductive Comparison where
  | equal
  | notEqual
  | less
  | lessOrEqual
  | greater
  | greaterOrEqual
  | isIn
  | isNotIn
  deriving DecidableEq, Repr

inductive Operator where
  | add
  | subtract
  | multiply
  | divide
  | floorDivide
  | remainder
  | power
  deriving DecidableEq, Repr

/-- How an argument is handed over. -/
inductive Handover where
  | positional
  | named (name : String)
  /-- The items of a value as arguments. -/
  | spread
  /-- The members of an object as named arguments. -/
  | spreadNamed
  deriving DecidableEq, Repr

inductive Expr where
  | name (name : String)
  | constant (v : Json)
  | list (items : List Expr)
  | tuple (items : List Expr)
  | object (members : List (Expr × Expr))
  | member (e : Expr) (name : String)
  | item (e index : Expr)
  | slice (start stop step : Expr)
  | call (e : Expr) (arguments : List (Handover × Expr))
  | filter (e : Expr) (name : String) (arguments : List (Handover × Expr))
  | test (e : Expr) (name : String) (arguments : List (Handover × Expr))
  | negation (e : Expr)
  /-- A number with its sign changed, or with a plus sign before it. -/
  | signed (negative : Bool) (e : Expr)
  | operation (operator : Operator) (left right : Expr)
  /-- The texts of values one after the other. -/
  | joined (items : List Expr)
  /-- Each comparison is of the value before it with its own. -/
  | comparison (e : Expr) (steps : List (Comparison × Expr))
  | both (left right : Expr)
  | either (left right : Expr)
  | choice (condition yes no : Expr)
  /-- What is not there for a choice on some line to fall back on. -/
  | absent (line : Nat)

/-! ## Nodes -/

/-- What the items of a loop are bound to. -/
inductive Target where
  | name (name : String)
  | tuple (items : List Target)

inductive Node where
  | text (s : String)
  | output (e : Expr)
  | branch (condition : Expr) (yes no : List Node)
  /-- The body for each item that meets the condition, or other nodes if there is none. -/
  | each (target : Target) (items condition : Expr) (body otherwise : List Node)

end Phrasebook.Template

/-- The nodes of a template. -/
abbrev Phrasebook.Template := List Phrasebook.Template.Node
