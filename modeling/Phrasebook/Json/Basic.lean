-- SUMMARY: JSON values with ordered objects, their kinds, fields and truth.
import Phrasebook.Binary64

/-!
# JSON values

Objects keep the order of their fields, and integers stay apart from numbers
written with a fraction or an exponent. Settings and documents are read from
such values; a setting that nothing checks keeps the value it was given.
-/

namespace Phrasebook

inductive Json where
  | null
  | bool (b : Bool)
  | int (i : Int)
  | float (x : Binary64)
  | str (s : String)
  | arr (items : List Json)
  | obj (fields : List (String × Json))

namespace Json

instance : Inhabited Json := ⟨.null⟩

/-! ## Kinds -/

/-- What a value is, its content apart. -/
inductive Kind where
  | null
  | bool
  | int
  | float
  | str
  | arr
  | obj
  deriving DecidableEq, Repr

def kind : Json → Kind
  | .null => .null
  | .bool _ => .bool
  | .int _ => .int
  | .float _ => .float
  | .str _ => .str
  | .arr _ => .arr
  | .obj _ => .obj

/-- The word by which messages name a kind. -/
def Kind.word : Kind → String
  | .null => "NoneType"
  | .bool => "bool"
  | .int => "int"
  | .float => "float"
  | .str => "str"
  | .arr => "list"
  | .obj => "dict"

/-! ## Fields -/

/-- The fields of an object, in order. -/
abbrev Fields := List (String × Json)

namespace Fields

/-- The value of a key. -/
def get? (fields : Fields) (key : String) : Option Json :=
  fields.lookup key

def keys (fields : Fields) : List String :=
  fields.map Prod.fst

/-- Give a key a value: in its place if the key is there, else at the end. -/
def put (fields : Fields) (key : String) (value : Json) : Fields :=
  match fields with
  | [] => [(key, value)]
  | (k, v) :: rest => if k = key then (k, value) :: rest else (k, v) :: put rest key value

/-- Put every field of `more`, in order. -/
def putAll (fields more : Fields) : Fields :=
  more.foldl (fun fs f => fs.put f.1 f.2) fields

/-- Fields in which every key stands once: the last value of a key, where the key came first. -/
def ofMembers (members : List (String × Json)) : Fields :=
  putAll [] members

theorem get?_put_self (fields : Fields) (key : String) (value : Json) :
    (fields.put key value).get? key = some value := by
  induction fields with
  | nil => simp [put, get?]
  | cons f rest ih =>
    obtain ⟨k, v⟩ := f
    unfold put
    split
    · rename_i h
      simp [get?, h]
    · rename_i h
      have hne : (key == k) = false := by simpa using fun e => h e.symm
      simpa [get?, List.lookup_cons, hne] using ih

theorem get?_put_of_ne (fields : Fields) {key other : String} (value : Json) (h : other ≠ key) :
    (fields.put key value).get? other = fields.get? other := by
  induction fields with
  | nil =>
    have hne : (other == key) = false := by simpa using h
    simp [put, get?, List.lookup_cons, hne]
  | cons f rest ih =>
    obtain ⟨k, v⟩ := f
    unfold put
    split
    · rename_i hk
      have hne : (other == k) = false := by simpa [hk] using h
      simp [get?, List.lookup_cons, hne]
    · cases hok : other == k with
      | true => simp [get?, List.lookup_cons, hok]
      | false => simpa [get?, List.lookup_cons, hok] using ih

end Fields

/-! ## Truth -/

/-- Whether a value counts as set: null, false, zero and everything empty do not. -/
def truthy : Json → Bool
  | .null => false
  | .bool b => b
  | .int i => i != 0
  | .float (.finite _ mantissa _) => mantissa != 0
  | .float _ => true
  | .str s => s != ""
  | .arr items => !items.isEmpty
  | .obj fields => !fields.isEmpty

end Json

end Phrasebook
