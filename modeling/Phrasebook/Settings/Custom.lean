-- SUMMARY: The custom section of settings, whose members may have names that are no texts.
import Phrasebook.Misuse

/-!
# Custom sections

A custom section is written as an object or as a list of pairs. The first
member of a pair may be a number, a truth value or null as well as a text, and
then is a name of its own kind: the number 2 and the text `2` name different
members, while 1, 1.0 and true name the same one.
-/

namespace Phrasebook.Settings

/-! ## Names of members -/

inductive Key where
  | null
  | number (i : Int)
  | decimal (x : Binary64)
  | truth (b : Bool)
  | text (s : String)
  deriving DecidableEq, Repr

namespace Key

/-- The finite number that a name is. A truth value counts as zero or one. -/
def value? : Key → Option Binary64.Scaled
  | .number i => some (i, 0)
  | .truth b => some (if b then 1 else 0, 0)
  | .decimal x => x.scaled?
  | _ => none

/-- Whether two names are those of the same member. -/
def same (k l : Key) : Bool :=
  match k.value?, l.value? with
  | some x, some y => Binary64.Scaled.order x y == .eq
  | _, _ => k = l

/-- A name as a settings file has it. -/
def name : Key → String
  | .null => "null"
  | .number i => toString i
  | .decimal x => x.render "Infinity" "NaN"
  | .truth b => if b then "true" else "false"
  | .text s => s

end Key

/-! ## Members -/

/-- Members in order. -/
abbrev Members := List (Key × Json)

namespace Members

/-- Give a member a value: in its place if the member is there, else at the end. -/
def put (members : Members) (key : Key) (value : Json) : Members :=
  match members with
  | [] => [(key, value)]
  | (k, v) :: rest => if k.same key then (k, value) :: rest else (k, v) :: put rest key value

/-- Put every member of `more`, in order. -/
def putAll (members more : Members) : Members :=
  more.foldl (fun ms m => ms.put m.1 m.2) members

def ofFields (fields : Json.Fields) : Members :=
  fields.map fun f => (.text f.1, f.2)

/-- The members whose names are texts. -/
def texts (members : Members) : Json.Fields :=
  members.filterMap fun m =>
    match m.1 with
    | .text s => some (s, m.2)
    | _ => none

/-- The members under the names that a settings file has for them. -/
def fields (members : Members) : Json.Fields :=
  members.map fun m => (m.1.name, m.2)

end Members

/-! ## Members from values -/

/-- The name that a value is. -/
def keyOf : Json → Except Misuse Key
  | .null => .ok .null
  | .bool b => .ok (.truth b)
  | .int i => .ok (.number i)
  | .float x => .ok (.decimal x)
  | .str s => .ok (.text s)
  | .arr items => .error (.element (Json.arr items).kind)
  | .obj fields => .error (.element (Json.obj fields).kind)

/-- The member that a pair gives: a list, an object or a text of two members. -/
def memberOfPair : Json → Except Misuse (Key × Json)
  | .arr [key, value] => do return (← keyOf key, value)
  | .arr items => .error (.pairLength items.length)
  | .obj [(key, _), (value, _)] => .ok (.text key, .str value)
  | .obj fields => .error (.pairLength fields.length)
  | .str s =>
    match s.toList with
    | [key, value] => .ok (.text (String.singleton key), .str (String.singleton value))
    | cs => .error (.pairLength cs.length)
  | v => .error (.pair v.kind)

def membersOfPairs : List Json → Except Misuse Members
  | [] => .ok []
  | item :: items => do
    let member ← memberOfPair item
    let members ← membersOfPairs items
    return member :: members

/-- The members that an object, or a list of pairs, stands for. -/
def membersOf : Json → Except Misuse Members
  | .obj fields => .ok (.ofFields fields)
  | .arr items => do return Members.putAll [] (← membersOfPairs items)
  | .str s => if s = "" then .ok [] else .error (.pairLength 1)
  | v => .error (.pairs v.kind)

/-! ## Sections -/

/-- A custom section: as it is written, or by its members. -/
inductive Custom where
  | value (v : Json)
  | members (members : Members)

namespace Custom

instance : Inhabited Custom := ⟨.value (.obj [])⟩

/-- The members of a section. -/
def toMembers : Custom → Except Misuse Members
  | .value v => membersOf v
  | .members ms => .ok ms

/-- A section that also has the given fields. -/
def extend (custom : Custom) (fields : Json.Fields) : Except Misuse Custom :=
  match custom with
  | .value (.obj own) => .ok (.value (.obj (Json.Fields.putAll own fields)))
  | custom => do return .members ((← custom.toMembers).putAll (.ofFields fields))

/-- A section as a value. -/
def json : Custom → Json
  | .value v => v
  | .members ms => .obj ms.fields

end Custom

end Phrasebook.Settings
