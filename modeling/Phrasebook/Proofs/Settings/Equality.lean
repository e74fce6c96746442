-- SUMMARY: When settings are equal, and what equal custom sections have in common.
import Phrasebook.Proofs.Json.Equality
import Phrasebook.Settings.Basic

/-!
# Equality of settings

Settings are equal if every setting is. A custom section may be an object or
stand by its members, whose names need not be texts; sections are equal if they
have equal members under the same names.
-/

namespace Phrasebook.Settings

/-! ## Names -/

namespace Key

variable {k : Key} {s : String}

@[simp] theorem same_text_iff : k.same (.text s) ↔ k = .text s := by
  have hnone : value? (.text s) = none := rfl
  unfold same
  cases k.value? <;> simp [hnone]

theorem text_same_iff : (Key.text s).same k ↔ k = .text s := by
  unfold same
  simp [value?, eq_comm]

theorem same_self (k : Key) : k.same k := by
  unfold same
  cases k.value? with
  | none => simp
  | some x => simpa using Json.order_self x

end Key

/-! ## Members -/

namespace Members

variable {members more : Members} {fields : Json.Fields} {k : Key} {v : Json}

@[simp] theorem mem_ofFields {key : String} : (.text key, v) ∈ ofFields fields ↔ (key, v) ∈ fields := by
  simp [ofFields]

/-- Putting fields and putting the members that they are comes to the same. -/
theorem putAll_ofFields (fields more : Json.Fields) :
    (ofFields fields).putAll (ofFields more) = ofFields (fields.putAll more) := by
  have hput : ∀ (fields : Json.Fields) key value,
      (ofFields fields).put (.text key) value = ofFields (fields.put key value) := by
    intro fields key value
    induction fields with
    | nil => rfl
    | cons f rest ih =>
      obtain ⟨k, v⟩ := f
      simp only [ofFields, List.map_cons, put, Json.Fields.put, Key.same_text_iff,
        Key.text.injEq] at ih ⊢
      split
      · rfl
      · rw [List.map_cons, ih]
  induction more generalizing fields with
  | nil => rfl
  | cons f more ih => exact (congrArg (fun ms => putAll ms (ofFields more)) (hput _ _ _)).trans (ih _)

@[simp] theorem fields_ofFields (fields : Json.Fields) : (ofFields fields).fields = fields := by
  induction fields with
  | nil => rfl
  | cons f rest ih => exact congrArg (f :: ·) ih

/-- After a member is put, every member is one that was there before, or has the value put. -/
theorem mem_put {m : Key × Json} (h : m ∈ members.put k v) :
    m ∈ members ∨ m.1.same k ∧ m.2 = v := by
  induction members with
  | nil =>
    rw [put, List.mem_singleton] at h
    subst h
    exact .inr ⟨k.same_self, rfl⟩
  | cons n rest ih =>
    obtain ⟨l, w⟩ := n
    unfold put at h
    split at h
    · rename_i hsame
      rcases List.mem_cons.mp h with rfl | hrest
      · exact .inr ⟨hsame, rfl⟩
      · exact .inl (List.mem_cons_of_mem _ hrest)
    · rcases List.mem_cons.mp h with rfl | hrest
      · exact .inl List.mem_cons_self
      · exact (ih hrest).imp (List.mem_cons_of_mem _) id

theorem mem_putAll {m : Key × Json} (h : m ∈ members.putAll more) :
    m ∈ members ∨ ∃ n ∈ more, m.1.same n.1 ∧ m.2 = n.2 := by
  induction more generalizing members with
  | nil => exact .inl h
  | cons n more ih =>
    rcases ih h with hput | ⟨n', hn', heq⟩
    · exact (mem_put hput).imp id fun heq => ⟨n, List.mem_cons_self, heq⟩
    · exact .inr ⟨n', List.mem_cons_of_mem _ hn', heq⟩

/-- Whether each of two lists of members has all that the other one has. -/
def equals (members more : Members) : Bool :=
  (members.all fun m => more.any fun n => m.1.same n.1 && m.2.equals n.2) &&
    more.all fun n => members.any fun m => m.1.same n.1

end Members

/-! ## Custom sections -/

namespace Custom

/-- The members of a section that is no other value than an object. -/
def members? : Custom → Option Members
  | .value (.obj fields) => some (.ofFields fields)
  | .value _ => none
  | .members ms => some ms

/-- Whether two sections are equal. -/
def equals : Custom → Custom → Bool
  | .value v, .value w => v.equals w
  | c, d =>
    match c.members?, d.members? with
    | some ms, some ns => ms.equals ns
    | _, _ => false

variable {d : Custom} {fields : Json.Fields} {key : String} {v : Json}

/-- A section that equals an object has an equal member for each of its fields. -/
theorem exists_of_equals (h : (Custom.value (.obj fields)).equals d)
    (hv : fields.get? key = some v) :
    ∃ ms, d.members? = some ms ∧ ∃ w, (.text key, w) ∈ ms ∧ v.equals w := by
  cases d with
  | value w =>
    obtain ⟨more, rfl, hfields, -⟩ := Json.equals_obj_iff.mp h
    obtain ⟨w, hw, heq⟩ := hfields _ (Json.Fields.mem_of_get? hv)
    exact ⟨_, rfl, w, Members.mem_ofFields.mpr (Json.Fields.mem_of_get? hw), heq⟩
  | members ms =>
    have hequals : (Members.ofFields fields).equals ms := h
    rw [Members.equals, Bool.and_eq_true, List.all_eq_true] at hequals
    have hmem : (Key.text key, v) ∈ Members.ofFields fields :=
      Members.mem_ofFields.mpr (Json.Fields.mem_of_get? hv)
    obtain ⟨⟨k, w⟩, hw, hsame⟩ := List.any_eq_true.mp (hequals.1 _ hmem)
    rw [Bool.and_eq_true, Key.text_same_iff] at hsame
    obtain ⟨rfl, heq⟩ := hsame
    exact ⟨ms, rfl, w, hw, heq⟩

end Custom

/-! ## Settings -/

/-- Whether every setting of two is equal. -/
def equals (s t : Settings) : Bool :=
  s.outputFile.equals t.outputFile && s.className.equals t.className &&
    s.lineEnding.equals t.lineEnding && s.keyCase.equals t.keyCase &&
    s.addComments.equals t.addComments && s.custom.equals t.custom

end Phrasebook.Settings
