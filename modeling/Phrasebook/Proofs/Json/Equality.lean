-- SUMMARY: Equality of JSON values as the reader of settings compares them, and what it tells of their depth.
import Mathlib.Data.List.Forall2
import Mathlib.Tactic.Common
import Phrasebook.Proofs.Json.DistinctKeys

/-!
# Equality of values

Two values are equal if they compare so, which is coarser than being the same:
the order of fields does not count, and a number equals any other way to write
it, truth values as zero and one included. It is finer in one place: what is not
a number equals nothing, not even itself.

No value equals a less deeply nested one, and so none equals a part of itself.
-/

namespace Phrasebook.Json

/-! ## Comparing -/

/-- The number that a value counts as. -/
def number? : Json → Option Binary64.Scaled
  | .bool b => some (if b then 1 else 0, 0)
  | .int i => some (i, 0)
  | .float x => x.scaled?
  | _ => none

/-- Whether two values of which one is neither a list nor an object are equal. -/
def equalScalars : Json → Json → Bool
  | .null, .null => true
  | .str s, .str t => s = t
  | .float (.infinite negative), .float (.infinite negative') => negative = negative'
  | v, w =>
    match v.number?, w.number? with
    | some x, some y => Binary64.Scaled.order x y == .eq
    | _, _ => false

mutual

/-- Whether two values are equal. -/
def equals : Json → Json → Bool
  | .arr items, .arr others => equalItems items others
  | .obj fields, .obj others =>
    equalFields fields others && others.all fun f => Fields.keys fields |>.contains f.1
  | v, w => equalScalars v w

def equalItems : List Json → List Json → Bool
  | [], [] => true
  | item :: items, other :: others => equals item other && equalItems items others
  | _, _ => false

/-- Whether every field has an equal one of the same key. -/
def equalFields : List (String × Json) → Fields → Bool
  | [], _ => true
  | (key, value) :: fields, others =>
    (match others.get? key with
      | some other => equals value other
      | none => false) && equalFields fields others

end

example : equals (.obj [("a", .int 1), ("b", .null)]) (.obj [("b", .null), ("a", .bool true)]) := by
  decide

/-- In the value, however deep, every number is one. -/
inductive NanFree : Json → Prop
  | null : NanFree .null
  | bool (b : Bool) : NanFree (.bool b)
  | int (i : Int) : NanFree (.int i)
  | float {x : Binary64} (h : x ≠ .nan) : NanFree (.float x)
  | str (s : String) : NanFree (.str s)
  | arr {items : List Json} (h : ∀ v ∈ items, NanFree v) : NanFree (.arr items)
  | obj {fields : Fields} (h : ∀ f ∈ fields, NanFree f.2) : NanFree (.obj fields)

/-- A value of which there is nothing that cannot be compared, and in which no object has a key
twice. -/
structure Regular (v : Json) : Prop where
  nanFree : NanFree v
  distinctKeys : DistinctKeys v

variable {v w : Json} {items others : List Json} {fields more : Fields}

@[simp] theorem regular_null : Regular .null :=
  ⟨.null, .null⟩

@[simp] theorem regular_bool (b : Bool) : Regular (.bool b) :=
  ⟨.bool b, .bool b⟩

@[simp] theorem regular_int (i : Int) : Regular (.int i) :=
  ⟨.int i, .int i⟩

@[simp] theorem regular_str (s : String) : Regular (.str s) :=
  ⟨.str s, .str s⟩

@[simp] theorem regular_obj_iff :
    Regular (.obj fields) ↔ fields.keys.Nodup ∧ ∀ f ∈ fields, Regular f.2 := by
  constructor
  · rintro ⟨hnan, hkeys⟩
    cases hnan with
    | obj hnan => exact ⟨hkeys.nodup_keys, fun f hf => ⟨hnan f hf, hkeys.of_mem hf⟩⟩
  · rintro ⟨hkeys, h⟩
    exact ⟨.obj fun f hf => (h f hf).nanFree, .obj hkeys fun f hf => (h f hf).distinctKeys⟩

theorem Regular.of_get? {key : String} (h : Regular (.obj fields))
    (hv : fields.get? key = some v) : Regular v :=
  (regular_obj_iff.mp h).2 _ (Fields.mem_of_get? hv)

theorem equalItems_iff : equalItems items others ↔
    List.Forall₂ (fun v w => equals v w = true) items others := by
  induction items generalizing others with
  | nil => cases others <;> simp [equalItems]
  | cons item items ih =>
    cases others with
    | nil => simp [equalItems]
    | cons other others => simp [equalItems, ih]

theorem equalFields_iff : equalFields fields more ↔
    ∀ f ∈ fields, ∃ w, more.get? f.1 = some w ∧ equals f.2 w := by
  induction fields with
  | nil => simp [equalFields]
  | cons f fields ih =>
    obtain ⟨key, value⟩ := f
    rw [equalFields, Bool.and_eq_true, ih, List.forall_mem_cons]
    refine and_congr_left fun _ => ?_
    cases more.get? key <;> simp

theorem equals_arr_iff : equals (.arr items) w ↔
    ∃ others, w = .arr others ∧ List.Forall₂ (fun v w => equals v w = true) items others := by
  cases w <;> simp [equals, equalScalars, number?, equalItems_iff]

theorem equals_obj_iff : equals (.obj fields) w ↔ ∃ more, w = .obj more ∧
    (∀ f ∈ fields, ∃ w, Fields.get? more f.1 = some w ∧ equals f.2 w) ∧
      ∀ key ∈ Fields.keys more, key ∈ Fields.keys fields := by
  cases w <;> simp [equals, equalScalars, number?, equalFields_iff, Fields.keys]

/-! ## A value and itself -/

theorem order_self (x : Binary64.Scaled) : (x.order x == .eq) = true := by
  simp [Binary64.Scaled.order]

theorem equals_self (h : Regular v) : equals v v := by
  obtain ⟨hnan, hkeys⟩ := h
  induction hnan with
  | null => rfl
  | bool b => cases b <;> rfl
  | int i => exact order_self (i, 0)
  | float h =>
    rename_i x
    cases x with
    | finite negative mantissa exponent => exact order_self _
    | infinite negative => simp [equals, equalScalars]
    | nan => exact absurd rfl h
  | str s => simp [equals, equalScalars]
  | arr h ih =>
    rw [distinctKeys_arr_iff] at hkeys
    refine equals_arr_iff.mpr ⟨_, rfl, List.forall₂_same.mpr fun v hv => ih v hv (hkeys v hv)⟩
  | obj h ih =>
    rw [distinctKeys_obj_iff] at hkeys
    refine equals_obj_iff.mpr ⟨_, rfl, fun f hf => ⟨f.2, ?_, ih f hf (hkeys.2 f hf)⟩, fun _ => id⟩
    exact Fields.get?_of_mem hkeys.1 hf

/-- Fields in which the same is found under every key are equal. -/
theorem equals_of_get?_eq (hfields : Regular (.obj fields))
    (h : ∀ key, Fields.get? more key = fields.get? key) : equals (.obj fields) (.obj more) := by
  obtain ⟨_, heq, hfields, -⟩ := equals_obj_iff.mp (equals_self hfields)
  cases heq
  refine equals_obj_iff.mpr ⟨more, rfl, fun f hf => ?_, fun key hmem => ?_⟩
  · rw [h]
    exact hfields f hf
  · by_contra hnot
    rw [← Fields.get?_eq_none_iff, ← h, Fields.get?_eq_none_iff] at hnot
    exact hnot hmem

/-! ## Depth -/

mutual

/-- How deep lists and objects are nested in a value. -/
def depth : Json → Nat
  | .arr items => depthOfItems items + 1
  | .obj fields => depthOfFields fields + 1
  | _ => 0

def depthOfItems : List Json → Nat
  | [] => 0
  | item :: items => max (depth item) (depthOfItems items)

def depthOfFields : List (String × Json) → Nat
  | [] => 0
  | (_, value) :: fields => max (depth value) (depthOfFields fields)

end

theorem depthOfItems_le_iff {n : Nat} : depthOfItems items ≤ n ↔ ∀ v ∈ items, depth v ≤ n := by
  induction items with
  | nil => simp [depthOfItems]
  | cons item items ih => rw [depthOfItems, Nat.max_le, ih, List.forall_mem_cons]

theorem depthOfFields_le_iff {n : Nat} : depthOfFields fields ≤ n ↔ ∀ f ∈ fields, depth f.2 ≤ n := by
  induction fields with
  | nil => simp [depthOfFields]
  | cons f fields ih =>
    obtain ⟨key, value⟩ := f
    rw [depthOfFields, Nat.max_le, ih, List.forall_mem_cons]

theorem depth_lt_of_mem_arr (h : v ∈ items) : depth v < depth (.arr items) :=
  Nat.lt_succ_of_le (depthOfItems_le_iff.mp (Nat.le_refl _) v h)

theorem depth_lt_of_mem_obj {f : String × Json} (h : f ∈ fields) : depth f.2 < depth (.obj fields) :=
  Nat.lt_succ_of_le (depthOfFields_le_iff.mp (Nat.le_refl _) f h)

theorem exists_of_forall₂ {r : Json → Json → Prop} (h : List.Forall₂ r items others)
    (hv : v ∈ items) : ∃ w ∈ others, r v w := by
  obtain ⟨hlength, hget⟩ := List.forall₂_iff_get.mp h
  obtain ⟨i, rfl⟩ := List.mem_iff_get.mp hv
  exact ⟨_, List.get_mem others ⟨i, hlength ▸ i.isLt⟩, hget i i.isLt _⟩

/-- No value equals a less deeply nested one. -/
theorem depth_le_of_equals {v w : Json} (h : equals v w) : depth v ≤ depth w := by
  match v, h with
  | .arr items, h =>
    obtain ⟨others, rfl, hitems⟩ := equals_arr_iff.mp h
    refine Nat.succ_le_succ (depthOfItems_le_iff.mpr fun v hv => ?_)
    obtain ⟨w, hw, heq⟩ := exists_of_forall₂ hitems hv
    calc depth v ≤ depth w := depth_le_of_equals heq
      _ ≤ depthOfItems others := depthOfItems_le_iff.mp (Nat.le_refl _) w hw
  | .obj fields, h =>
    obtain ⟨more, rfl, hfields, -⟩ := equals_obj_iff.mp h
    refine Nat.succ_le_succ (depthOfFields_le_iff.mpr fun f hf => ?_)
    obtain ⟨w, hw, heq⟩ := hfields f hf
    calc depth f.2 ≤ depth w := depth_le_of_equals heq
      _ ≤ depthOfFields more := depthOfFields_le_iff.mp (Nat.le_refl _) _ (Fields.mem_of_get? hw)
  | .null, _ => exact Nat.zero_le _
  | .bool _, _ => exact Nat.zero_le _
  | .int _, _ => exact Nat.zero_le _
  | .float _, _ => exact Nat.zero_le _
  | .str _, _ => exact Nat.zero_le _
termination_by depth v
decreasing_by
  · exact depth_lt_of_mem_arr hv
  · exact depth_lt_of_mem_obj hf

end Phrasebook.Json
