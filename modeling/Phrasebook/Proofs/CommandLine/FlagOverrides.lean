-- SUMMARY: The overrides that flags make: language settings stand in the custom section only.
import Mathlib.Data.List.Nodup
import Phrasebook.CommandLine.Run
import Phrasebook.Proofs.Settings.Layering

/-!
# Overrides by flags

The flags for the Dart options are written into the custom section of the
overrides, and beside it stand fields of every language only.
-/

namespace Phrasebook.CommandLine.GenerateRequest

open Settings

variable {q : GenerateRequest} {name : String}

theorem keys_field (name : String) (s : Option String) : (field name s).keys.Sublist [name] := by
  unfold field
  split
  · exact List.Sublist.refl _
  · exact List.nil_sublist _

/-- The keys of the overrides, in order, each at most once. -/
theorem keys_overrides (q : GenerateRequest) :
    q.overrides.keys.Sublist
      (["class_name"] ++ ["key_case"] ++ ["add_comments"] ++ ["output_file"] ++ ["custom"]) := by
  unfold overrides
  simp only [Json.Fields.keys, List.map_append]
  refine ((((keys_field _ _).append (keys_field _ _)).append ?_).append (keys_field _ _)).append ?_
  · split
    · exact List.Sublist.refl _
    · exact List.nil_sublist _
  · split
    · exact List.nil_sublist _
    · exact List.Sublist.refl _

/-- The keys of the custom section, in order, each at most once. -/
theorem keys_custom (q : GenerateRequest) :
    q.custom.keys.Sublist
      (["lookup_type"] ++ ["custom_lookup_type"] ++ ["delegate_type"] ++ ["context_accessor"]) := by
  unfold custom
  simp only [Json.Fields.keys, List.map_append]
  refine (((keys_field _ _).append (keys_field _ _)).append (keys_field _ _)).append ?_
  split
  · exact List.Sublist.refl _
  · exact List.nil_sublist _

theorem get?_field (name : String) (s : Option String) (key : String) :
    Json.Fields.get? (field name s) key =
      if key = name ∧ isGiven s then some (.str (s.getD "")) else none := by
  unfold field
  by_cases hgiven : isGiven s
  · by_cases hkey : key = name
    · simp [hgiven, hkey, Json.Fields.get?]
    · have hne : (key == name) = false := by simpa using hkey
      simp [hgiven, hkey, hne, Json.Fields.get?, List.lookup_cons]
  · simp [hgiven]

theorem get?_noDocs (q : GenerateRequest) {key : String} (hkey : key ≠ "add_comments") :
    Json.Fields.get? (if q.noDocs then [("add_comments", .bool false)] else []) key = none := by
  split
  · exact Json.Fields.get?_cons_of_ne hkey
  · rfl

theorem get?_overrides_custom (q : GenerateRequest) :
    q.overrides.get? "custom" = if q.custom.isEmpty then none else some (.obj q.custom) := by
  simp only [overrides, Json.Fields.get?_append, get?_field,
    q.get?_noDocs (by decide : "custom" ≠ _), String.reduceEq, false_and, if_false, Option.none_or]
  split
  · rfl
  · rfl

/-- Beside the switch for comments and the custom section, the overrides hold three texts. -/
theorem get?_overrides_of_ne (q : GenerateRequest) {key : String} (hdocs : key ≠ "add_comments")
    (hcustom : key ≠ "custom") :
    q.overrides.get? key =
      ((Json.Fields.get? (field "class_name" q.className) key).or
        (Json.Fields.get? (field "key_case" q.keyCase) key)).or
        (Json.Fields.get? (field "output_file" q.output) key) := by
  have hnone : Json.Fields.get? (if q.custom.isEmpty then [] else [("custom", .obj q.custom)]) key =
      none := by
    split
    · rfl
    · exact Json.Fields.get?_cons_of_ne hcustom
  simp only [overrides, Json.Fields.get?_append, q.get?_noDocs hdocs, hnone, Option.or_none]

theorem get?_overrides_className (q : GenerateRequest) :
    q.overrides.get? "class_name" =
      if isGiven q.className then some (.str (q.className.getD "")) else none := by
  simp [get?_overrides_of_ne, get?_field]

theorem get?_overrides_keyCase (q : GenerateRequest) :
    q.overrides.get? "key_case" =
      if isGiven q.keyCase then some (.str (q.keyCase.getD "")) else none := by
  simp [get?_overrides_of_ne, get?_field]

theorem get?_overrides_outputFile (q : GenerateRequest) :
    q.overrides.get? "output_file" =
      if isGiven q.output then some (.str (q.output.getD "")) else none := by
  simp [get?_overrides_of_ne, get?_field]

/-- The custom section of the overrides holds what the flags set. -/
theorem customMembers_overrides (q : GenerateRequest) : customMembers q.overrides = q.custom := by
  unfold customMembers
  rw [get?_overrides_custom]
  cases hcustom : q.custom with
  | nil => rfl
  | cons f rest => rfl

theorem isLayer_overrides (q : GenerateRequest) : IsLayer q.overrides := by
  refine ⟨(keys_overrides q).nodup (by decide), ?_, ?_⟩
  · intro v hv
    rw [get?_overrides_custom] at hv
    split at hv
    · cases hv
    · exact ⟨q.custom, (Option.some.inj hv).symm⟩
  · rw [customMembers_overrides]
    exact (keys_custom q).nodup (by decide)

/-- Beside its fields, an override by flags gives nothing. -/
theorem beside?_overrides (q : GenerateRequest) (key : String) :
    beside? q.overrides key = none := by
  unfold beside?
  split
  · rfl
  · rename_i hkey
    refine Json.Fields.get?_eq_none_iff.mpr fun hmem => hkey ?_
    have hall : ∀ name ∈ ["class_name", "key_case", "add_comments", "output_file", "custom"],
      fieldNames.contains name := by decide
    exact hall key ((keys_overrides q).subset hmem)

/-- No flag sets the marker of missing texts. -/
theorem given?_overrides_missingMarker (q : GenerateRequest) :
    given? q.overrides "missing_marker" = none := by
  have habsent : "missing_marker" ∉ q.custom.keys := fun hmem =>
    absurd ((keys_custom q).subset hmem) (by decide)
  rw [given?, beside?_overrides, inCustom?, customMembers_overrides,
    Json.Fields.get?_eq_none_iff.mpr habsent]
  rfl

/-- No option that a flag sets has the name of a field. -/
theorem not_field_of_custom {v : Json} (h : q.custom.get? name = some v) :
    fieldNames.contains name = false := by
  have hmem : name ∈ q.custom.keys := by
    by_contra habsent
    rw [Json.Fields.get?_eq_none_iff.mpr habsent] at h
    cases h
  have hall : ∀ name ∈ ["lookup_type", "custom_lookup_type", "delegate_type", "context_accessor"],
    fieldNames.contains name = false := by decide
  exact hall name ((keys_custom q).subset hmem)

end Phrasebook.CommandLine.GenerateRequest
