-- SUMMARY: Values in which no object has a key twice, and that every value that is read is one.
import Mathlib.Data.List.Basic
import Phrasebook.Json.Parser
import Phrasebook.Proofs.Json.Fields
import Phrasebook.Proofs.Outcome

/-!
# Distinct keys

A value can be written in which an object has a key twice. The reader makes no
such value: whatever the text repeats, an object is put together key by key.
-/

namespace Phrasebook.Json

/-- In every object of the value, however deep, every key stands once. -/
inductive DistinctKeys : Json → Prop
  | null : DistinctKeys .null
  | bool (b : Bool) : DistinctKeys (.bool b)
  | int (i : Int) : DistinctKeys (.int i)
  | float (x : Binary64) : DistinctKeys (.float x)
  | str (s : String) : DistinctKeys (.str s)
  | arr {items : List Json} (h : ∀ v ∈ items, DistinctKeys v) : DistinctKeys (.arr items)
  | obj {fields : Fields} (hkeys : fields.keys.Nodup) (h : ∀ f ∈ fields, DistinctKeys f.2) :
      DistinctKeys (.obj fields)

theorem DistinctKeys.nodup_keys {fields : Fields} (h : DistinctKeys (.obj fields)) :
    fields.keys.Nodup := by
  cases h
  assumption

@[simp] theorem distinctKeys_str (s : String) : DistinctKeys (.str s) :=
  .str s

@[simp] theorem distinctKeys_arr_iff {items : List Json} :
    DistinctKeys (.arr items) ↔ ∀ v ∈ items, DistinctKeys v := by
  constructor
  · intro h
    cases h
    assumption
  · exact .arr

@[simp] theorem distinctKeys_obj_iff {fields : Fields} :
    DistinctKeys (.obj fields) ↔ fields.keys.Nodup ∧ ∀ f ∈ fields, DistinctKeys f.2 := by
  constructor
  · intro h
    cases h with
    | obj hkeys hvalues => exact ⟨hkeys, hvalues⟩
  · rintro ⟨hkeys, hvalues⟩
    exact .obj hkeys hvalues

theorem DistinctKeys.of_mem {fields : Fields} {f : String × Json} (h : DistinctKeys (.obj fields))
    (hf : f ∈ fields) : DistinctKeys f.2 :=
  (distinctKeys_obj_iff.mp h).2 f hf

theorem DistinctKeys.of_get? {fields : Fields} {key : String} {v : Json}
    (h : DistinctKeys (.obj fields)) (hv : fields.get? key = some v) : DistinctKeys v := by
  obtain ⟨before, after, heq, _⟩ := List.lookup_eq_some_iff.mp hv
  exact h.of_mem (f := (key, v)) (by simp [heq])

theorem distinctKeys_ofMembers {members : List (String × Json)}
    (h : ∀ m ∈ members, DistinctKeys m.2) : DistinctKeys (.obj (Fields.ofMembers members)) :=
  .obj (Fields.nodup_keys_ofMembers members) (Fields.forall_putAll (by simp) h)

/-! ## Reading -/

variable {cs rest : List Char} {v : Json}

theorem distinctKeys_number (h : number cs = .ok (v, rest)) : DistinctKeys v := by
  unfold number at h
  split at h
  split at h
  split at h
  · cases h
  · split at h
    · split at h
      · cases h
      · cases h
        exact .int _
    · cases h
      exact .float _
    · split at h
      · cases h
        exact .float _
      · cases h
        exact .float _

theorem distinctKeys_scalar (h : scalar cs = .ok (v, rest)) : DistinctKeys v := by
  unfold scalar at h
  split at h
  · rename_i word value hfind
    cases h
    have hmem := List.mem_of_find?_eq_some hfind
    simp only [words, List.mem_cons, Prod.mk.injEq, List.not_mem_nil, or_false] at hmem
    rcases hmem with ⟨-, rfl⟩ | ⟨-, rfl⟩ | ⟨-, rfl⟩ | ⟨-, rfl⟩ | ⟨-, rfl⟩ | ⟨-, rfl⟩
    · exact .null
    · exact .bool true
    · exact .bool false
    all_goals exact .float _
  · exact distinctKeys_number h

/-- What the three readers return if they may still make so many calls. -/
structure ReadDistinctKeys (fuel : Nat) : Prop where
  value : ∀ depth cs v rest, value fuel depth cs = .ok (v, rest) → DistinctKeys v
  items : ∀ depth cs vs rest, items fuel depth cs = .ok (vs, rest) → ∀ v ∈ vs, DistinctKeys v
  members : ∀ depth cs ms rest, members fuel depth cs = .ok (ms, rest) →
    ∀ m ∈ ms, DistinctKeys m.2

variable {fuel depth : Nat}

theorem ReadDistinctKeys.value_succ (ih : ReadDistinctKeys fuel)
    (h : Json.value (fuel + 1) depth cs = .ok (v, rest)) : DistinctKeys v := by
  unfold Json.value at h
  split at h
  · obtain ⟨⟨s, tail⟩, -, heq⟩ := Except.map_eq_ok_iff.mp h
    cases heq
    exact .str s
  · cases h
  · split at h
    · cases h
      exact .arr (by simp)
    · obtain ⟨⟨values, tail⟩, hread, heq⟩ := Except.map_eq_ok_iff.mp h
      cases heq
      exact .arr (ih.items _ _ _ _ hread)
  · cases h
  · split at h
    · cases h
      exact .obj List.nodup_nil (by simp)
    · obtain ⟨⟨fields, tail⟩, hread, heq⟩ := Except.map_eq_ok_iff.mp h
      cases heq
      exact distinctKeys_ofMembers (ih.members _ _ _ _ hread)
  · exact distinctKeys_scalar h

theorem ReadDistinctKeys.items_succ (ih : ReadDistinctKeys fuel) {vs : List Json}
    (h : Json.items (fuel + 1) depth cs = .ok (vs, rest)) : ∀ v ∈ vs, DistinctKeys v := by
  unfold Json.items at h
  split at h
  · cases h
  · rename_i item tail hread
    have hitem := ih.value _ _ _ _ hread
    split at h
    · cases h
      simpa using hitem
    · obtain ⟨⟨more, tail'⟩, hmore, heq⟩ := Except.map_eq_ok_iff.mp h
      cases heq
      exact List.forall_mem_cons.mpr ⟨hitem, ih.items _ _ _ _ hmore⟩
    · cases h

theorem ReadDistinctKeys.members_succ (ih : ReadDistinctKeys fuel) {ms : List (String × Json)}
    (h : Json.members (fuel + 1) depth cs = .ok (ms, rest)) : ∀ m ∈ ms, DistinctKeys m.2 := by
  unfold Json.members at h
  split at h
  case h_2 => cases h
  split at h
  · cases h
  split at h
  case h_2 => cases h
  split at h
  · cases h
  · rename_i item tail hread
    have hitem := ih.value _ _ _ _ hread
    split at h
    · cases h
      simpa using hitem
    · obtain ⟨⟨more, tail'⟩, hmore, heq⟩ := Except.map_eq_ok_iff.mp h
      cases heq
      exact List.forall_mem_cons.mpr ⟨hitem, ih.members _ _ _ _ hmore⟩
    · cases h

theorem readDistinctKeys (fuel : Nat) : ReadDistinctKeys fuel := by
  induction fuel with
  | zero =>
    constructor
    · intro depth cs v rest h
      cases h
    · intro depth cs vs rest h
      cases h
    · intro depth cs ms rest h
      cases h
  | succ fuel ih =>
    constructor
    · intro depth cs v rest h
      exact ih.value_succ h
    · intro depth cs vs rest h
      exact ih.items_succ h
    · intro depth cs ms rest h
      exact ih.members_succ h

/-- Every value that is read from a text has distinct keys. -/
theorem distinctKeys_parse {text : String} (h : parse text = .ok v) : DistinctKeys v := by
  have hdocument := Except.mapError_eq_ok_iff.mp h
  unfold document at hdocument
  split at hdocument
  · cases hdocument
  · split at hdocument
    · cases hdocument
    · rename_i w rest hread
      split at hdocument
      · cases hdocument
        exact (readDistinctKeys _).value _ _ _ _ hread
      · cases hdocument

end Phrasebook.Json
