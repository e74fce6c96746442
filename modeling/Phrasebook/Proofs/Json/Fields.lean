-- SUMMARY: What is found in fields after fields are put over them, and that keys stay distinct.
import Mathlib.Data.List.Basic
import Phrasebook.Json.Basic

/-!
# Fields

Fields are looked up from the front, and putting a field keeps its place. As
long as every key stands once, where a field stands does not matter: what is put
later is found, and else what was there before.
-/

namespace Phrasebook

/-- Nothing is found for a key that no pair has. -/
theorem lookup_eq_none_iff_not_mem {α : Type} {pairs : List (String × α)} {key : String} :
    pairs.lookup key = none ↔ key ∉ pairs.map Prod.fst := by
  rw [List.lookup_eq_none_iff, List.mem_map]
  constructor
  · rintro h ⟨p, hp, rfl⟩
    simpa using h p hp
  · intro h p hp
    simp only [bne_iff_ne, ne_eq]
    rintro rfl
    exact h ⟨p, hp, rfl⟩

/-- What is found for a key does not depend on the pairs of another one. -/
theorem lookup_filter_of_ne {α : Type} {pairs : List (String × α)} {key other : String}
    (h : other ≠ key) : (pairs.filter (·.1 != key)).lookup other = pairs.lookup other := by
  induction pairs with
  | nil => rfl
  | cons p rest ih =>
    rw [List.lookup_cons, List.filter_cons]
    by_cases hp : p.1 = key
    · have hother : (other == p.1) = false := by simpa [hp] using h
      rw [if_neg (by simpa using hp), ih, hother]
    · rw [if_pos (by simpa using hp), List.lookup_cons, ih]

namespace Json.Fields

variable {fields more : Fields} {key other : String} {value : Json}

/-! ## Looking up -/

@[simp] theorem get?_nil (key : String) : get? [] key = none := rfl

theorem get?_cons_self (fields : Fields) (key : String) (value : Json) :
    get? ((key, value) :: fields) key = some value := by
  simp [get?]

theorem get?_cons_of_ne (h : other ≠ key) :
    get? ((key, value) :: fields) other = get? fields other := by
  have hne : (other == key) = false := by simpa using h
  simp [get?, List.lookup_cons, hne]

theorem get?_eq_none_iff : get? fields key = none ↔ key ∉ keys fields :=
  lookup_eq_none_iff_not_mem

theorem mem_of_get? (h : get? fields key = some value) : (key, value) ∈ fields := by
  obtain ⟨before, after, heq, _⟩ := List.lookup_eq_some_iff.mp h
  simp [heq]

/-- Where every key stands once, each field is found under its key. -/
theorem get?_of_mem (hnodup : (keys fields).Nodup) (h : (key, value) ∈ fields) :
    get? fields key = some value := by
  induction fields with
  | nil => simp at h
  | cons f rest ih =>
    obtain ⟨k, v⟩ := f
    rw [keys, List.map_cons, List.nodup_cons] at hnodup
    rcases List.mem_cons.mp h with heq | hmem
    · cases heq
      exact get?_cons_self rest key value
    · have hkey : key ∈ rest.map Prod.fst := List.mem_map.mpr ⟨_, hmem, rfl⟩
      have hne : key ≠ k := by
        rintro rfl
        exact hnodup.1 hkey
      rw [get?_cons_of_ne hne]
      exact ih hnodup.2 hmem

theorem get?_append (fields more : Fields) (key : String) :
    get? (fields ++ more) key = (get? fields key).or (get? more key) := by
  rw [get?, List.lookup_append]
  rfl

/-- Of the keys that pass a test, the fields that pass it have the values they had. -/
theorem get?_filter (p : String → Bool) (fields : Fields) (key : String) :
    get? (fields.filter (p ·.1)) key = if p key then get? fields key else none := by
  induction fields with
  | nil => simp
  | cons f rest ih =>
    obtain ⟨k, v⟩ := f
    by_cases hk : key = k
    · subst hk
      by_cases hp : p key
      · simp [hp, get?_cons_self]
      · simpa [hp] using ih
    · by_cases hp : p k
      · simpa [hp, get?_cons_of_ne hk] using ih
      · simpa [hp, get?_cons_of_ne hk] using ih

/-! ## Putting -/

theorem mem_keys_put : other ∈ keys (put fields key value) ↔ other ∈ keys fields ∨ other = key := by
  induction fields with
  | nil => simp [put, keys]
  | cons f rest ih =>
    obtain ⟨k, v⟩ := f
    unfold put
    split
    · rename_i hk
      subst hk
      simp only [keys, List.map_cons, List.mem_cons]
      tauto
    · simp only [keys, List.map_cons, List.mem_cons] at ih ⊢
      rw [ih]
      tauto

theorem nodup_keys_put (h : (keys fields).Nodup) : (keys (put fields key value)).Nodup := by
  induction fields with
  | nil => simp [put, keys]
  | cons f rest ih =>
    obtain ⟨k, v⟩ := f
    rw [keys, List.map_cons, List.nodup_cons] at h
    unfold put
    split
    · rename_i hk
      exact List.nodup_cons.mpr h
    · rename_i hk
      refine List.nodup_cons.mpr ⟨?_, ih h.2⟩
      intro hmem
      rcases mem_keys_put.mp hmem with hmem | heq
      · exact h.1 hmem
      · exact hk heq

theorem nodup_keys_putAll (h : (keys fields).Nodup) : (keys (putAll fields more)).Nodup := by
  induction more generalizing fields with
  | nil => exact h
  | cons f more ih => exact ih (nodup_keys_put h)

theorem nodup_keys_ofMembers (members : List (String × Json)) : (keys (ofMembers members)).Nodup :=
  nodup_keys_putAll List.nodup_nil

/-- What is put over fields is found, and else what was there before. -/
theorem get?_putAll (h : (keys more).Nodup) (fields : Fields) (key : String) :
    get? (putAll fields more) key = (get? more key).or (get? fields key) := by
  induction more generalizing fields with
  | nil => simp [putAll]
  | cons f more ih =>
    obtain ⟨k, v⟩ := f
    rw [keys, List.map_cons, List.nodup_cons] at h
    have hrest : get? (putAll fields ((k, v) :: more)) key =
        (get? more key).or (get? (put fields k v) key) := ih h.2 _
    rw [hrest]
    by_cases hk : key = k
    · subst hk
      have habsent : get? more key = none := get?_eq_none_iff.mpr h.1
      rw [habsent, get?_cons_self, get?_put_self]
      rfl
    · rw [get?_cons_of_ne hk, get?_put_of_ne fields v hk]

theorem mem_put_value {P : Json → Prop} (hfields : ∀ f ∈ fields, P f.2) (hvalue : P value) :
    ∀ f ∈ put fields key value, P f.2 := by
  induction fields with
  | nil => simpa [put] using hvalue
  | cons f rest ih =>
    obtain ⟨k, v⟩ := f
    rw [List.forall_mem_cons] at hfields
    unfold put
    split
    · exact List.forall_mem_cons.mpr ⟨hvalue, hfields.2⟩
    · exact List.forall_mem_cons.mpr ⟨hfields.1, ih hfields.2⟩

/-- A property of all values that are put together is one of all values of the result. -/
theorem forall_putAll {P : Json → Prop} (hfields : ∀ f ∈ fields, P f.2)
    (hmore : ∀ f ∈ more, P f.2) : ∀ f ∈ putAll fields more, P f.2 := by
  induction more generalizing fields with
  | nil => exact hfields
  | cons f more ih =>
    rw [List.forall_mem_cons] at hmore
    exact ih (mem_put_value hfields hmore.1) hmore.2

end Json.Fields

end Phrasebook
