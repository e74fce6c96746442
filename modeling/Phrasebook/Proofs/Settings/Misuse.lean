-- SUMMARY: When settings cannot be merged, and which merged settings cannot be validated.
import Phrasebook.Proofs.Outcome
import Phrasebook.Proofs.Settings.Layering

/-!
# Misuse of settings

A layer may give any value for any field. Merging fails over one field alone:
the custom section. A section that is no object stands in the way of the members
that another layer puts into it, and of unknown fields that are to join it.
-/

namespace Phrasebook.Settings

variable {base layer result : Json.Fields} {key : String} {value v : Json}

/-! ## Custom sections -/

/-- A custom section that is no object, so that no members can be put into it. -/
def Blocks (fields : Json.Fields) (v : Json) : Prop :=
  fields.get? "custom" = some v ∧ ∀ members, v ≠ .obj members

theorem mergeCustom_eq_error_iff {members : Json.Fields} :
    (∃ cause, mergeCustom base members = .error cause) ↔ ∃ v, Blocks base v := by
  unfold mergeCustom Blocks
  cases base.get? "custom" with
  | none => simp
  | some v => cases v <;> simp

/-- Only members that are to be put into a custom section can fail to be merged. -/
theorem mergeField_eq_error_iff : (∃ cause, mergeField base key value = .error cause) ↔
    (key = "custom" ∧ ∃ members, value = .obj members) ∧ ∃ v, Blocks base v := by
  by_cases hkey : key = "custom"
  · cases value with
    | obj members => simp [mergeField, hkey, mergeCustom_eq_error_iff]
    | _ => simp [mergeField]
  · simp [mergeField_of_ne hkey, hkey]

/-- What is put in place of a custom section blocks it if it is no object. Members that are put into
the section do not. -/
theorem blocks_mergeField (h : mergeField base key value = .ok result) : Blocks result v ↔
    if key = "custom" then value = v ∧ ∀ members, v ≠ .obj members else Blocks base v := by
  obtain ⟨put, rfl, hput⟩ := mergeField_eq_ok h
  split
  · rename_i hkey
    rw [hkey, Blocks, Json.Fields.get?_put_self, Option.some.injEq]
    rcases hput with rfl | ⟨-, ⟨members, rfl⟩, own, rfl⟩
    · rfl
    · constructor
      · rintro ⟨rfl, hnot⟩
        exact absurd rfl (hnot own)
      · rintro ⟨rfl, hnot⟩
        exact absurd rfl (hnot members)
  · rename_i hkey
    rw [Blocks, Json.Fields.get?_put_of_ne _ _ (Ne.symm hkey), Blocks]

/-! ## Merging -/

/-- After a merge the custom section is blocked by the layer, or else by the base if the layer does
not give it. -/
theorem blocks_merge (hnodup : layer.keys.Nodup) (h : merge base layer = .ok result) :
    Blocks result v ↔ Blocks layer v ∨ (layer.get? "custom" = none ∧ Blocks base v) := by
  induction layer generalizing base with
  | nil =>
    cases h
    simp [Blocks]
  | cons f rest ih =>
    obtain ⟨key, value⟩ := f
    obtain ⟨middle, hmiddle, hrest⟩ := Except.bind_eq_ok_iff.mp h
    rw [Json.Fields.keys, List.map_cons, List.nodup_cons] at hnodup
    rw [ih hnodup.2 hrest, blocks_mergeField hmiddle]
    by_cases hkey : key = "custom"
    · subst hkey
      have habsent : Json.Fields.get? rest "custom" = none :=
        Json.Fields.get?_eq_none_iff.mpr hnodup.1
      simp [Blocks, habsent, Json.Fields.get?_cons_self]
    · rw [if_neg hkey, Blocks, Blocks, Blocks, Json.Fields.get?_cons_of_ne (Ne.symm hkey)]

/-- A layer cannot be merged exactly if it has members for a custom section that is no object. -/
theorem merge_eq_error_iff (hnodup : layer.keys.Nodup) :
    (∃ cause, merge base layer = .error cause) ↔
      (∃ members, layer.get? "custom" = some (.obj members)) ∧ ∃ v, Blocks base v := by
  induction layer generalizing base with
  | nil => simp [merge]
  | cons f rest ih =>
    obtain ⟨key, value⟩ := f
    have hmerge : merge base ((key, value) :: rest) =
      (mergeField base key value).bind fun middle => merge middle rest := rfl
    rw [Json.Fields.keys, List.map_cons, List.nodup_cons] at hnodup
    simp only [hmerge, Except.bind_eq_error_iff, exists_or]
    rw [mergeField_eq_error_iff]
    by_cases hkey : key = "custom"
    · subst hkey
      have habsent : Json.Fields.get? rest "custom" = none :=
        Json.Fields.get?_eq_none_iff.mpr hnodup.1
      have hrest : ¬ ∃ cause middle, mergeField base "custom" value = .ok middle ∧
          merge middle rest = .error cause := by
        rintro ⟨cause, middle, -, herror⟩
        obtain ⟨⟨members, hmembers⟩, -⟩ := (ih hnodup.2).mp ⟨cause, herror⟩
        rw [habsent] at hmembers
        cases hmembers
      simp [hrest, Json.Fields.get?_cons_self]
    · have hmiddle : mergeField base key value = .ok (base.put key value) := mergeField_of_ne hkey
      have hblocks : ∀ v, Blocks (base.put key value) v ↔ Blocks base v := fun v => by
        rw [blocks_mergeField hmiddle, if_neg hkey]
      simp only [hkey, false_and, false_or, hmiddle, Except.ok.injEq, exists_eq_left',
        ih hnodup.2, hblocks, Json.Fields.get?_cons_of_ne (Ne.symm hkey)]

/-! ## Merged settings -/

variable {fields file overrides : Json.Fields} {s : Settings} {store : Store}

/-- There is a field beside those of every language. -/
def HasExtra (fields : Json.Fields) : Prop :=
  ∃ key ∈ fields.keys, fieldNames.contains key = false

theorem isEmpty_extra_iff :
    (fields.filter (!fieldNames.contains ·.1)).isEmpty ↔ ¬ HasExtra fields := by
  simp [HasExtra, Json.Fields.keys]

theorem hasExtra_merge (hnodup : layer.keys.Nodup) (h : merge base layer = .ok result) :
    HasExtra result ↔ HasExtra layer ∨ HasExtra base := by
  unfold HasExtra
  rw [← exists_or]
  refine exists_congr fun key => ?_
  rw [← or_and_right]
  refine and_congr_left fun hkey => ?_
  have hne : key ≠ "custom" := by
    rintro rfl
    exact absurd hkey (by decide)
  have hmem : ∀ fields : Json.Fields, key ∈ fields.keys ↔ fields.get? key ≠ none := fun fields => by
    rw [ne_eq, Json.Fields.get?_eq_none_iff, not_not]
  rw [hmem, hmem, hmem, get?_merge hnodup h hne]
  cases layer.get? key <;> simp

theorem extend_eq_error_iff {extra : Json.Fields} :
    (∃ cause, (Custom.value v).extend extra = .error cause) ↔
      (∀ members, v ≠ .obj members) ∧ ∃ cause, membersOf v = .error cause := by
  by_cases hobj : ∃ members, v = .obj members
  · obtain ⟨members, rfl⟩ := hobj
    simp [Custom.extend]
  · have hextend : (Custom.value v).extend extra = (membersOf v).bind fun members =>
        .ok (.members (members.putAll (.ofFields extra))) := by
      cases v with
      | obj members => exact absurd ⟨members, rfl⟩ hobj
      | _ => rfl
    rw [hextend, and_iff_right (not_exists.mp hobj)]
    cases membersOf v <;> simp [Except.bind]

/-- Unknown fields join the custom section, which has to be an object or to stand for members. -/
theorem ofMerged_eq_error_iff : (∃ cause, ofMerged fields = .error cause) ↔
    HasExtra fields ∧ ∃ v, Blocks fields v ∧ ∃ cause, membersOf v = .error cause := by
  unfold ofMerged
  simp only
  split
  · rename_i hempty
    refine iff_of_false ?_ fun h => isEmpty_extra_iff.mp hempty h.1
    rintro ⟨cause, h⟩
    cases h
  · rename_i hempty
    have hextra : HasExtra fields := not_not.mp (mt isEmpty_extra_iff.mpr hempty)
    have hbind : ∀ x : Except Misuse Custom, (∃ cause, (x.bind fun custom =>
        pure { ofKnown fields with custom }) = .error cause) ↔ ∃ cause, x = .error cause := by
      intro x
      cases x <;> simp [Except.bind, pure, Except.pure]
    refine (hbind _).trans ?_
    unfold ofKnown Blocks
    cases fields.get? "custom" with
    | none => simp [hextra, Custom.extend]
    | some v => simp [hextra, extend_eq_error_iff, and_assoc]

theorem plainFields_ofMerged (h : ofMerged fields = .ok s) :
    s.plainFields = (ofKnown fields).plainFields := by
  unfold ofMerged at h
  simp only at h
  split at h
  · cases h
    rfl
  · obtain ⟨custom, -, hs⟩ := Except.bind_eq_ok_iff.mp h
    cases hs
    rfl

/-! ## Layers -/

theorem not_blocks_of_isLayer (h : IsLayer layer) : ¬ Blocks layer v := by
  rintro ⟨hv, hnot⟩
  obtain ⟨members, rfl⟩ := h.custom_obj v hv
  exact hnot members rfl

theorem not_hasExtra_defaultsOf (language : String) : ¬ HasExtra (defaultsOf language) := by
  rintro ⟨key, hmem, hkey⟩
  have hnone := beside?_defaultsOf language key
  rw [beside?, hkey] at hnone
  exact Json.Fields.get?_eq_none_iff.mp hnone hmem

section OfLayers

variable (language : String) (hfile : file.keys.Nodup) (hoverrides : IsLayer overrides)
include hfile

/-- A file is merged with the defaults, whatever it holds. -/
theorem exists_merge_defaults : ∃ middle, merge (defaultsOf language) file = .ok middle ∧
    ∀ v, Blocks middle v ↔ Blocks file v := by
  have hdefaults : ∀ v, ¬ Blocks (defaultsOf language) v := fun v =>
    not_blocks_of_isLayer (isLayer_defaultsOf language)
  cases hmerge : merge (defaultsOf language) file with
  | error cause =>
    obtain ⟨-, v, hv⟩ := (merge_eq_error_iff hfile).mp ⟨cause, hmerge⟩
    exact absurd hv (hdefaults v)
  | ok middle => exact ⟨middle, rfl, fun v => by simp [blocks_merge hfile hmerge, hdefaults]⟩

include hoverrides

/-- Overrides without extra fields fail to be put over a file exactly if the custom section of the
file is no object, and they have members for it or it cannot take the extra fields of the file. -/
theorem ofLayers_eq_error_iff (hextra : ¬ HasExtra overrides) :
    (∃ cause, ofLayers language file overrides = .error cause) ↔
      ∃ v, Blocks file v ∧ ((∃ members, overrides.get? "custom" = some (.obj members)) ∨
        HasExtra file ∧ ∃ cause, membersOf v = .error cause) := by
  obtain ⟨middle, hmiddle, hblocks⟩ := exists_merge_defaults language hfile
  have hlayers : ofLayers language file overrides = (merge middle overrides).bind ofMerged := by
    rw [ofLayers, hmiddle]
    rfl
  have hextra' : HasExtra middle ↔ HasExtra file := by
    simp [hasExtra_merge hfile hmiddle, not_hasExtra_defaultsOf]
  rw [hlayers]
  cases hmerge : merge middle overrides with
  | error cause =>
    obtain ⟨hmembers, v, hv⟩ := (merge_eq_error_iff hoverrides.keys_nodup).mp ⟨cause, hmerge⟩
    exact iff_of_true ⟨cause, rfl⟩ ⟨v, (hblocks v).mp hv, .inl hmembers⟩
  | ok result =>
    have hblocks' : ∀ v, Blocks result v ↔ overrides.get? "custom" = none ∧ Blocks file v :=
      fun v => by
        simp [blocks_merge hoverrides.keys_nodup hmerge, not_blocks_of_isLayer hoverrides, hblocks]
    have hmembers : ∀ v, Blocks file v →
        ¬ ∃ members, overrides.get? "custom" = some (.obj members) := by
      intro v hv hmembers
      obtain ⟨cause, herror⟩ := (merge_eq_error_iff hoverrides.keys_nodup).mpr
        ⟨hmembers, v, (hblocks v).mpr hv⟩
      rw [hmerge] at herror
      cases herror
    have hnone : ∀ v, Blocks file v → overrides.get? "custom" = none := by
      intro v hv
      rw [Option.eq_none_iff_forall_ne_some]
      intro w hw
      obtain ⟨members, rfl⟩ := hoverrides.custom_obj w hw
      exact hmembers v hv ⟨members, hw⟩
    simp only [Except.bind, ofMerged_eq_error_iff, hasExtra_merge hoverrides.keys_nodup hmerge,
      hextra, hextra',
      false_or, hblocks']
    constructor
    · rintro ⟨hfile, v, ⟨-, hv⟩, hcause⟩
      exact ⟨v, hv, .inr ⟨hfile, hcause⟩⟩
    · rintro ⟨v, hv, habsurd | ⟨hfile, hcause⟩⟩
      · exact absurd habsurd (hmembers v hv)
      · exact ⟨hfile, v, ⟨hnone v hv, hv⟩, hcause⟩

/-- The fields that every language has come from the first layer that gives them. -/
theorem plainFields_ofLayers (h : ofLayers language file overrides = .ok s) :
    s.plainFields = ({} : Settings).plainFields.map fun f =>
      (f.1, ((overrides.get? f.1).or
        ((file.get? f.1).or ((defaultsOf language).get? f.1))).getD f.2) := by
  obtain ⟨middle, hmiddle, hrest⟩ := Except.bind_eq_ok_iff.mp h
  obtain ⟨result, hresult, hmerged⟩ := Except.bind_eq_ok_iff.mp hrest
  rw [plainFields_ofMerged hmerged, plainFields_ofKnown]
  refine List.map_congr_left fun f hf => ?_
  have hne := ne_custom_of_mem_plainFields hf
  rw [get?_merge hoverrides.keys_nodup hresult hne, get?_merge hfile hmiddle hne]

end OfLayers

/-- Loading reads the file and puts the layers together. -/
theorem load_eq_bind (store : Store) (language : String) (overrides : Json.Fields) (value : Json) :
    load store language (.obj overrides) value = (fileFields store value).bind fun file =>
      (ofLayers language file overrides).mapError .misuse := by
  simp only [load, ofLayers, overrideFields_obj, bind]
  cases fileFields store value with
  | error fault => rfl
  | ok file =>
    simp only [Except.bind]
    cases merge (defaultsOf language) file with
    | error cause => rfl
    | ok middle =>
      simp only [Except.mapError]
      cases merge middle overrides <;> rfl

/-! ## Validation -/

/-- Validation stops at a class name that is no text, and at a case style that is a list or an
object. -/
theorem validate_eq_error_iff : (∃ cause, s.validate = .error cause) ↔
    s.className.kind ≠ .str ∨ s.keyCase.kind = .arr ∨ s.keyCase.kind = .obj := by
  unfold validate
  cases s.className with
  | str name =>
    cases s.keyCase <;>
      simp [classNameProblems, keyCaseProblems, bind, Except.bind, pure, Except.pure, Json.kind]
  | _ => simp [classNameProblems, bind, Except.bind, Json.kind]

end Phrasebook.Settings
