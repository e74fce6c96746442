-- SUMMARY: Handing out distinct names for keys, around reserved words and names already in use.
import Phrasebook.Naming.Style

/-!
# Name allocation

An allocator gives every request a name that nothing else holds, and gives a
repeated request the name it had before. A name that is reserved takes the
request's suffix; one that is in use takes the least number that frees it.
-/

namespace Phrasebook.Naming

/-- What a name is wanted for. -/
structure Request where
  key : String
  style : Style := .camel
  suffix : String := "_"
  deriving DecidableEq, Repr

/-- The text under which a request is remembered. -/
def Request.label (r : Request) : String :=
  r.key ++ "\x00" ++ r.style.word ++ "\x00" ++ r.suffix

/-- The rules of the names and what has been handed out so far. -/
structure Allocator where
  /-- Words of the language, which are no names. -/
  reserved : List String := []
  /-- Names that mean something else where the new ones will stand. -/
  builtins : List String := []
  /-- What is put before a name that starts with a digit. -/
  digitLead : String := "n"
  /-- The name given to each request, by label. -/
  given : List (String × String) := []
  /-- Every name that is taken. -/
  used : List String := []
  deriving DecidableEq, Repr

/-! ## Names in use -/

/-- A name with a number after it. -/
def numbered (base : String) (k : Nat) : String :=
  base ++ toString k

/-- The first free name among `base` with the numbers `k`, `k + 1`, …, of which `tries` are tried
and the one after them is taken. -/
def firstFree (used : List String) (base : String) : (tries k : Nat) → String
  | 0, k => numbered base k
  | tries + 1, k =>
    if used.contains (numbered base k) then firstFree used base tries (k + 1) else numbered base k

/-- `base` if it is free, else `base` with the least number that is. As many numbers as there are
names in use cannot all be taken. -/
def free (used : List String) (base : String) : String :=
  if used.contains base then firstFree used base used.length 1 else base

/-! ## Requests -/

namespace Allocator

/-- The name of a key in a style: `key` for a key without letters and digits, and never a digit
first. -/
def styled (a : Allocator) (key : String) (style : Style) : String :=
  let converted := style.convert (clean key.toList)
  let named := if converted.isEmpty then ['k', 'e', 'y'] else converted
  if named.head?.any Char.isDigit then a.digitLead ++ String.ofList named
  else String.ofList named

/-- The name a request has while nothing is in use. -/
def baseName (a : Allocator) (r : Request) : String :=
  let name := a.styled r.key r.style
  if a.reserved.contains name || a.builtins.contains name then name ++ r.suffix else name

/-- The name given to a request before. -/
def given? (a : Allocator) (r : Request) : Option String :=
  a.given.lookup r.label

/-- Give a request its name. -/
def allocate (a : Allocator) (r : Request) : String × Allocator :=
  match a.given? r with
  | some name => (name, a)
  | none =>
    let name := free a.used (a.baseName r)
    (name, { a with given := (r.label, name) :: a.given, used := name :: a.used })

/-- Take a name out of circulation. -/
def claim (a : Allocator) (name : String) : Allocator :=
  { a with used := name :: a.used }

/-- Forget every name handed out or claimed. -/
def reset (a : Allocator) : Allocator :=
  { a with given := [], used := [] }

/-! ## Runs -/

/-- One use of an allocator. -/
inductive Step where
  | allocate (r : Request)
  | claim (name : String)
  | reset
  deriving DecidableEq, Repr

/-- The name a step yields, if it asks for one, and the allocator after it. -/
def step (a : Allocator) : Step → Option String × Allocator
  | .allocate r =>
    let (name, a) := a.allocate r
    (some name, a)
  | .claim name => (none, a.claim name)
  | .reset => (none, a.reset)

/-- What the steps yield, in order, and the allocator after them. -/
def run (a : Allocator) : List Step → List (Option String) × Allocator
  | [] => ([], a)
  | s :: steps =>
    let (answer, a) := a.step s
    let (answers, a) := a.run steps
    (answer :: answers, a)

end Allocator

end Phrasebook.Naming
