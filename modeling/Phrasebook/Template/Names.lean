-- SUMMARY: The filters and tests that a template needs whatever it is rendered with.
import Phrasebook.Template.Basic

/-!
# Needed names

Before a template is rendered, its filters and tests are looked for, and so are
loops that would bind their own state. What stands in a branch or in a choice is
looked for only when it is come across. A loop in a branch is looked through all
the same, its items apart.
-/

namespace Phrasebook.Template

/-- What a template asks for before it is rendered. -/
inductive Need where
  | filter (name : String)
  | test (name : String)
  /-- A loop binds the name of its own state. -/
  | loopTarget
  deriving DecidableEq, Repr

mutual

/-- What an expression needs, the outermost first. -/
def Expr.needs : Expr → List Need
  | .name _ => []
  | .constant _ => []
  | .list items => needsOfAll items
  | .tuple items => needsOfAll items
  | .object members => needsOfMembers members
  | .member e _ => e.needs
  | .item e index => e.needs ++ index.needs
  | .slice start stop step => start.needs ++ stop.needs ++ step.needs
  | .call e arguments => e.needs ++ needsOfArguments arguments
  | .filter e name arguments => .filter name :: e.needs ++ needsOfArguments arguments
  | .test e name arguments => .test name :: e.needs ++ needsOfArguments arguments
  | .negation e => e.needs
  | .signed _ e => e.needs
  | .operation _ left right => left.needs ++ right.needs
  | .joined items => needsOfAll items
  | .comparison e steps => e.needs ++ needsOfSteps steps
  | .both left right => left.needs ++ right.needs
  | .either left right => left.needs ++ right.needs
  | .choice _ _ _ => []
  | .absent _ => []

def needsOfAll : List Expr → List Need
  | [] => []
  | e :: es => e.needs ++ needsOfAll es

def needsOfMembers : List (Expr × Expr) → List Need
  | [] => []
  | (key, value) :: members => key.needs ++ value.needs ++ needsOfMembers members

def needsOfArguments : List (Handover × Expr) → List Need
  | [] => []
  | (_, e) :: arguments => e.needs ++ needsOfArguments arguments

def needsOfSteps : List (Comparison × Expr) → List Need
  | [] => []
  | (_, e) :: steps => e.needs ++ needsOfSteps steps

end

mutual

/-- Whether a target binds a name. -/
def Target.binds (name : String) : Target → Bool
  | .name own => own = name
  | .tuple items => anyBinds name items

def anyBinds (name : String) : List Target → Bool
  | [] => false
  | target :: targets => target.binds name || anyBinds name targets

end

mutual

/-- Whether a node is or has a loop that binds the name of its state. -/
def Node.bindsLoop : Node → Bool
  | .text _ => false
  | .output _ => false
  | .branch _ yes no => anyBindsLoop yes || anyBindsLoop no
  | .each target _ _ body otherwise =>
    target.binds "loop" || anyBindsLoop body || anyBindsLoop otherwise

def anyBindsLoop : List Node → Bool
  | [] => false
  | node :: nodes => node.bindsLoop || anyBindsLoop nodes

end

mutual

/-- What a node needs, in a branch or not. -/
def Node.needs (inBranch : Bool) : Node → List Need
  | .text _ => []
  | .output e => if inBranch then [] else e.needs
  | .branch _ yes no => nodesNeed true yes ++ nodesNeed true no
  | .each target items condition body otherwise =>
    condition.needs
      ++ (if target.binds "loop" || anyBindsLoop body || anyBindsLoop otherwise then [.loopTarget]
        else [])
      ++ (if inBranch then [] else items.needs)
      ++ nodesNeed false body ++ nodesNeed false otherwise

/-- What nodes need, in order. -/
def nodesNeed (inBranch : Bool) : List Node → List Need
  | [] => []
  | node :: nodes => node.needs inBranch ++ nodesNeed inBranch nodes

end

end Phrasebook.Template
