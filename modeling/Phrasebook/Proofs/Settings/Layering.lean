-- SUMMARY: How layers of settings are merged: level by level, the upper level last.
import Mathlib.Data.List.Nodup
import Phrasebook.Proofs.Json.DistinctKeys
import Phrasebook.Proofs.Outcome
import Phrasebook.Settings.File

/-!
# Layering

A setting that only the language knows can be written on two levels of a layer:
in its custom section, or beside the fields that every language has. Layers are
merged on each level by itself, and only then is the upper level put over the
custom section. `load_layers` says what comes of a file and overrides.
-/

namespace Phrasebook.Settings

variable {base layer result fields : Json.Fields} {key : String} {value : Json}

/-! ## Layers -/

/-- The members of a layer's custom section, none if it has no section. -/
def customMembers (layer : Json.Fields) : Json.Fields :=
  match layer.get? "custom" with
  | some (.obj members) => members
  | _ => []

/-- A layer in which every key stands once, and whose custom section, if any, is an object. -/
structure IsLayer (layer : Json.Fields) : Prop where
  keys_nodup : layer.keys.Nodup
  custom_obj : ∀ v, layer.get? "custom" = some v → ∃ members, v = .obj members
  custom_keys_nodup : (customMembers layer).keys.Nodup

/-- What a layer gives for a key in its custom section. -/
def inCustom? (layer : Json.Fields) (key : String) : Option Json :=
  (customMembers layer).get? key

/-- What a layer gives for a key beside its fields, if the key is no field itself. -/
def beside? (layer : Json.Fields) (key : String) : Option Json :=
  if fieldNames.contains key then none else layer.get? key

/-- What a layer gives for a key that only the language knows. -/
def given? (layer : Json.Fields) (key : String) : Option Json :=
  (beside? layer key).or (inCustom? layer key)

theorem isLayer_nil : IsLayer [] where
  keys_nodup := List.nodup_nil
  custom_obj := by simp
  custom_keys_nodup := List.nodup_nil

theorem isLayer_of_distinctKeys (h : Json.DistinctKeys (.obj layer))
    (hcustom : ∀ v, layer.get? "custom" = some v → ∃ members, v = .obj members) :
    IsLayer layer := by
  refine ⟨h.nodup_keys, hcustom, ?_⟩
  unfold customMembers
  split
  · rename_i members heq
    exact (h.of_get? heq).nodup_keys
  · exact List.nodup_nil

theorem customMembers_put_custom (members : Json.Fields) :
    customMembers (base.put "custom" (.obj members)) = members := by
  simp [customMembers, Json.Fields.get?_put_self]

theorem customMembers_put_of_ne (hkey : key ≠ "custom") :
    customMembers (base.put key value) = customMembers base := by
  unfold customMembers
  rw [Json.Fields.get?_put_of_ne base value hkey.symm]

theorem customMembers_cons_of_ne (hkey : key ≠ "custom") :
    customMembers ((key, value) :: layer) = customMembers layer := by
  unfold customMembers
  rw [Json.Fields.get?_cons_of_ne hkey.symm]

theorem IsLayer.tail (h : IsLayer ((key, value) :: layer)) : IsLayer layer := by
  have hnodup := h.keys_nodup
  rw [Json.Fields.keys, List.map_cons, List.nodup_cons] at hnodup
  by_cases hkey : key = "custom"
  · have hnone : layer.get? "custom" = none := Json.Fields.get?_eq_none_iff.mpr (hkey ▸ hnodup.1)
    refine ⟨hnodup.2, by simp [hnone], ?_⟩
    simp [customMembers, hnone, Json.Fields.keys]
  · refine ⟨hnodup.2, ?_, ?_⟩
    · intro v hv
      exact h.custom_obj v (by rwa [Json.Fields.get?_cons_of_ne (Ne.symm hkey)])
    · rw [← customMembers_cons_of_ne hkey]
      exact h.custom_keys_nodup

/-! ## Merging -/

theorem mergeField_of_ne (hkey : key ≠ "custom") :
    mergeField base key value = .ok (base.put key value) := by
  unfold mergeField
  split
  · exact if_neg hkey
  · rfl

/-- A field is put in its place with its value, but for members that are put into a custom
section. -/
theorem mergeField_eq_ok (h : mergeField base key value = .ok result) :
    ∃ put, result = base.put key put ∧
      (put = value ∨ key = "custom" ∧ (∃ members, value = .obj members) ∧
        ∃ members, put = .obj members) := by
  unfold mergeField at h
  split at h
  · rename_i members
    split at h
    · rename_i hkey
      unfold mergeCustom at h
      split at h <;> cases h
      · exact ⟨_, by rw [hkey], .inr ⟨hkey, ⟨members, rfl⟩, _, rfl⟩⟩
      · exact ⟨_, by rw [hkey], .inr ⟨hkey, ⟨members, rfl⟩, _, rfl⟩⟩
    · cases h
      exact ⟨_, rfl, .inl rfl⟩
  · cases h
    exact ⟨_, rfl, .inl rfl⟩

theorem get?_mergeField {other : String} (h : mergeField base key value = .ok result)
    (hother : other ≠ "custom") :
    result.get? other = if other = key then some value else base.get? other := by
  obtain ⟨put, rfl, hput⟩ := mergeField_eq_ok h
  split
  · rename_i heq
    subst heq
    rcases hput with rfl | ⟨hcustom, -⟩
    · rw [Json.Fields.get?_put_self]
    · exact absurd hcustom hother
  · rename_i hne
    rw [Json.Fields.get?_put_of_ne _ _ hne]

/-- Beside the custom section, every field comes from the layer, or else from the base. -/
theorem get?_merge {other : String} (hnodup : layer.keys.Nodup)
    (h : merge base layer = .ok result) (hother : other ≠ "custom") :
    result.get? other = (layer.get? other).or (base.get? other) := by
  induction layer generalizing base with
  | nil =>
    cases h
    simp
  | cons f rest ih =>
    obtain ⟨key, value⟩ := f
    obtain ⟨middle, hmiddle, hrest⟩ := Except.bind_eq_ok_iff.mp h
    rw [Json.Fields.keys, List.map_cons, List.nodup_cons] at hnodup
    rw [ih hnodup.2 hrest, get?_mergeField hmiddle hother]
    by_cases heq : other = key
    · subst heq
      have habsent : Json.Fields.get? rest other = none :=
        Json.Fields.get?_eq_none_iff.mpr hnodup.1
      rw [habsent, Json.Fields.get?_cons_self, if_pos rfl]
      rfl
    · rw [Json.Fields.get?_cons_of_ne heq, if_neg heq]

/-- A layer put over a base: the result is a layer again, in whose custom section the layer wins. -/
structure Overlays (base layer result : Json.Fields) : Prop where
  isLayer : IsLayer result
  custom : ∀ key, inCustom? result key = (inCustom? layer key).or (inCustom? base key)

theorem mergeCustom_eq (hbase : IsLayer base) (members : Json.Fields) :
    mergeCustom base members =
      .ok (base.put "custom" (.obj (Json.Fields.putAll (customMembers base) members))) := by
  unfold mergeCustom customMembers
  cases hcustom : base.get? "custom" with
  | none => rfl
  | some v =>
    obtain ⟨own, rfl⟩ := hbase.custom_obj v hcustom
    rfl

theorem isLayer_put_custom (hbase : IsLayer base) {members : Json.Fields}
    (hmembers : members.keys.Nodup) : IsLayer (base.put "custom" (.obj members)) := by
  refine ⟨Json.Fields.nodup_keys_put hbase.keys_nodup, ?_, ?_⟩
  · intro v hv
    rw [Json.Fields.get?_put_self] at hv
    exact ⟨members, (Option.some.inj hv).symm⟩
  · rw [customMembers_put_custom]
    exact hmembers

theorem isLayer_put_of_ne (hbase : IsLayer base) (hkey : key ≠ "custom") :
    IsLayer (base.put key value) := by
  refine ⟨Json.Fields.nodup_keys_put hbase.keys_nodup, ?_, ?_⟩
  · rw [Json.Fields.get?_put_of_ne base value hkey.symm]
    exact hbase.custom_obj
  · rw [customMembers_put_of_ne hkey]
    exact hbase.custom_keys_nodup

/-- One field is merged on the level that it stands on. -/
theorem overlays_mergeField (hbase : IsLayer base) (hfield : IsLayer [(key, value)]) :
    ∃ result, mergeField base key value = .ok result ∧ Overlays base [(key, value)] result := by
  by_cases hkey : key = "custom"
  · subst hkey
    obtain ⟨members, rfl⟩ := hfield.custom_obj value (Json.Fields.get?_cons_self _ _ _)
    have hmembers : customMembers [("custom", .obj members)] = members := rfl
    have hnodup : (Json.Fields.keys members).Nodup := hmembers ▸ hfield.custom_keys_nodup
    refine ⟨_, by rw [mergeField, if_pos rfl, mergeCustom_eq hbase], ?_, ?_⟩
    · exact isLayer_put_custom hbase (Json.Fields.nodup_keys_putAll hbase.custom_keys_nodup)
    · intro key
      rw [inCustom?, customMembers_put_custom, Json.Fields.get?_putAll hnodup]
      rfl
  · refine ⟨_, mergeField_of_ne hkey, isLayer_put_of_ne hbase hkey, ?_⟩
    intro other
    rw [inCustom?, customMembers_put_of_ne hkey, inCustom?, customMembers_cons_of_ne hkey]
    rfl

theorem IsLayer.head (h : IsLayer ((key, value) :: layer)) : IsLayer [(key, value)] := by
  by_cases hkey : key = "custom"
  · subst hkey
    refine ⟨by simp [Json.Fields.keys], ?_, h.custom_keys_nodup⟩
    intro v hv
    exact h.custom_obj v hv
  · have hnone : Json.Fields.get? [(key, value)] "custom" = none :=
      Json.Fields.get?_cons_of_ne (Ne.symm hkey)
    refine ⟨by simp [Json.Fields.keys], by simp [hnone], ?_⟩
    rw [customMembers_cons_of_ne hkey]
    exact List.nodup_nil

/-- A field and the rest of a layer, one after the other, are the layer. -/
theorem Overlays.cons {middle : Json.Fields} (hlayer : IsLayer ((key, value) :: layer))
    (hfirst : Overlays base [(key, value)] middle) (hrest : Overlays middle layer result) :
    Overlays base ((key, value) :: layer) result := by
  have habsent : layer.get? key = none := by
    have hnodup := hlayer.keys_nodup
    rw [Json.Fields.keys, List.map_cons, List.nodup_cons] at hnodup
    exact Json.Fields.get?_eq_none_iff.mpr hnodup.1
  refine ⟨hrest.isLayer, ?_⟩
  intro other
  rw [hrest.custom other, hfirst.custom other]
  by_cases heq : key = "custom"
  · subst heq
    have hempty : inCustom? layer other = none := by simp [inCustom?, customMembers, habsent]
    rw [hempty]
    rfl
  · have hfirst : inCustom? [(key, value)] other = none := by
      rw [inCustom?, customMembers_cons_of_ne heq]
      rfl
    have hwhole : inCustom? ((key, value) :: layer) other = inCustom? layer other := by
      rw [inCustom?, customMembers_cons_of_ne heq, inCustom?]
    rw [hfirst, hwhole]
    rfl

/-- Every layer can be merged. -/
theorem overlays_merge (hbase : IsLayer base) (hlayer : IsLayer layer) :
    ∃ result, merge base layer = .ok result ∧ Overlays base layer result := by
  induction layer generalizing base with
  | nil => exact ⟨base, rfl, hbase, fun _ => rfl⟩
  | cons f rest ih =>
    obtain ⟨key, value⟩ := f
    obtain ⟨middle, hmiddle, hfirst⟩ := overlays_mergeField hbase hlayer.head
    obtain ⟨result, hresult, hrest⟩ := ih hfirst.isLayer hlayer.tail
    refine ⟨result, ?_, .cons hlayer hfirst hrest⟩
    rw [merge, hmiddle]
    exact hresult

/-! ## Merged settings -/

/-- The settings that every language has, under their names. -/
def plainFields (s : Settings) : Json.Fields :=
  [("output_file", s.outputFile),
   ("class_name", s.className),
   ("line_ending", s.lineEnding),
   ("key_case", s.keyCase),
   ("add_comments", s.addComments)]

theorem ne_custom_of_mem_plainFields {f : String × Json}
    (h : f ∈ ({} : Settings).plainFields) : f.1 ≠ "custom" := by
  have hall : ∀ name ∈ Json.Fields.keys ({} : Settings).plainFields, name ≠ "custom" := by decide
  exact hall f.1 (List.mem_map_of_mem h)

theorem plainFields_ofKnown (fields : Json.Fields) :
    (ofKnown fields).plainFields =
      ({} : Settings).plainFields.map fun f => (f.1, (fields.get? f.1).getD f.2) :=
  rfl

theorem ofKnown_custom (h : IsLayer fields) :
    (ofKnown fields).custom = .value (.obj (customMembers fields)) := by
  unfold ofKnown customMembers
  cases hcustom : fields.get? "custom" with
  | none => rfl
  | some v =>
    obtain ⟨members, rfl⟩ := h.custom_obj v hcustom
    rfl

/-- Of merged fields, the custom section of the settings holds what they give for each key. -/
theorem ofMerged_spec (h : IsLayer fields) :
    ∃ s members, ofMerged fields = .ok s ∧ s.plainFields = (ofKnown fields).plainFields ∧
      s.custom = .value (.obj members) ∧
      ∀ key, Json.Fields.get? members key = given? fields key := by
  let extra := fields.filter (!fieldNames.contains ·.1)
  have hextra : ∀ key, Json.Fields.get? extra key = beside? fields key := by
    intro key
    have hfilter := Json.Fields.get?_filter (!fieldNames.contains ·) fields key
    rw [hfilter, beside?]
    cases fieldNames.contains key <;> rfl
  by_cases hempty : extra = []
  · refine ⟨ofKnown fields, customMembers fields, ?_, rfl, ofKnown_custom h, ?_⟩
    · unfold ofMerged
      rw [if_pos (by rw [List.isEmpty_iff]; exact hempty)]
      rfl
    · intro key
      rw [given?, ← hextra, hempty]
      rfl
  · refine ⟨{ ofKnown fields with
      custom := .value (.obj (Json.Fields.putAll (customMembers fields) extra)) }, _, ?_, rfl, rfl,
      ?_⟩
    · unfold ofMerged
      rw [if_neg (by rw [List.isEmpty_iff]; exact hempty)]
      simp only [ofKnown_custom h, Custom.extend, bind, Except.bind, pure, Except.pure]
      rfl
    · intro key
      have hnodup : (Json.Fields.keys extra).Nodup :=
        h.keys_nodup.sublist (List.filter_sublist.map Prod.fst)
      rw [Json.Fields.get?_putAll hnodup, hextra]
      rfl

/-! ## Loading -/

theorem isLayer_defaultsOf (language : String) : IsLayer (defaultsOf language) := by
  unfold defaultsOf languageDefaults
  rw [List.lookup_cons]
  split
  · refine ⟨by decide, ?_, by decide⟩
    intro v hv
    exact ⟨_, (Option.some.inj hv).symm⟩
  · exact isLayer_nil

theorem readFile_eq_ok {store : Store} {path : Path} {bytes : List UInt8} {cs : List Char}
    (hexists : store.exists? path = .ok true) (hsuffix : Text.lower path.suffix = ".json")
    (hbytes : store.read path = .ok bytes) (hdecode : Text.Utf8.decode bytes = .ok cs)
    (hparse : Json.parse (String.ofList (Text.Utf8.unifyBreaks cs)) = .ok (.obj fields)) :
    readFile store path = .ok fields := by
  unfold readFile
  rw [hexists]
  simp only [hsuffix, hbytes, hdecode, hparse, bne_self_eq_false, Bool.false_eq_true, if_false]

/-- An object that is read from a file has distinct keys. -/
theorem distinctKeys_readFile {store : Store} {path : Path}
    (h : readFile store path = .ok fields) : Json.DistinctKeys (.obj fields) := by
  unfold readFile at h
  split at h
  · cases h
  · cases h
  · split at h
    · cases h
    · split at h
      · cases h
      · split at h
        · cases h
        · split at h
          · cases h
          · cases h
          · rename_i hparse
            cases h
            exact Json.distinctKeys_parse hparse
          · cases h

theorem beside?_defaultsOf (language key : String) : beside? (defaultsOf language) key = none := by
  have hfields : ∀ name ∈ Json.Fields.keys (defaultsOf language), fieldNames.contains name := by
    unfold defaultsOf languageDefaults
    rw [List.lookup_cons]
    split
    · decide
    · simp [Json.Fields.keys]
  unfold beside?
  split
  · rfl
  · rename_i hkey
    exact Json.Fields.get?_eq_none_iff.mpr fun hmem => hkey (hfields key hmem)

theorem overrideFields_obj (overrides : Json.Fields) :
    overrideFields (.obj overrides) = .ok overrides := by
  unfold overrideFields
  split
  · rfl
  · rename_i hempty
    have hnil : overrides = [] := by simpa [Json.truthy] using hempty
    rw [hnil]

/-- What is loaded from the fields of a file, if there is one, and overrides. Of the two levels the
upper one comes first, and on each of them the overrides do. -/
theorem load_of_fileFields {store : Store} {value : Json} {file overrides : Json.Fields}
    (language : String) (hfields : fileFields store value = .ok file) (hfile : IsLayer file)
    (hoverrides : IsLayer overrides) :
    ∃ s members, load store language (.obj overrides) value = .ok s ∧
      s.plainFields = ({} : Settings).plainFields.map (fun f =>
        (f.1, ((overrides.get? f.1).or
          ((file.get? f.1).or ((defaultsOf language).get? f.1))).getD f.2)) ∧
      s.custom = .value (.obj members) ∧
      ∀ key, Json.Fields.get? members key =
        ((beside? overrides key).or (beside? file key)).or
          ((inCustom? overrides key).or
            ((inCustom? file key).or (inCustom? (defaultsOf language) key))) := by
  obtain ⟨middle, hmiddle, hover⟩ := overlays_merge (isLayer_defaultsOf language) hfile
  obtain ⟨result, hresult, hover'⟩ := overlays_merge hover.isLayer hoverrides
  obtain ⟨s, members, hs, hplain, hcustom, hmembers⟩ := ofMerged_spec hover'.isLayer
  refine ⟨s, members, ?_, ?_, hcustom, ?_⟩
  · simp only [load, hfields, hmiddle, overrideFields_obj, hresult, hs, bind, Except.bind,
      Except.mapError]
  · rw [hplain, plainFields_ofKnown]
    refine List.map_congr_left fun f hf => ?_
    have hne := ne_custom_of_mem_plainFields hf
    rw [get?_merge hoverrides.keys_nodup hresult hne, get?_merge hfile.keys_nodup hmiddle hne]
  · intro key
    have hbeside : beside? result key = (beside? overrides key).or (beside? file key) := by
      have hdefault := beside?_defaultsOf language key
      unfold beside? at hdefault ⊢
      split
      · rfl
      · rename_i hkey
        have hne : key ≠ "custom" := by
          rintro rfl
          exact hkey (by decide)
        rw [if_neg hkey] at hdefault
        rw [get?_merge hoverrides.keys_nodup hresult hne, get?_merge hfile.keys_nodup hmiddle hne,
          hdefault, Option.or_none]
    rw [hmembers, given?, hbeside, hover'.custom, hover.custom]

/-- What is loaded from a file that is named, and overrides. -/
theorem load_layers {store : Store} {path : String} {file overrides : Json.Fields}
    (language : String) (hpath : path ≠ "")
    (hread : readFile store (Path.ofString path) = .ok file) (hfile : IsLayer file)
    (hoverrides : IsLayer overrides) :
    ∃ s members, load store language (.obj overrides) (.str path) = .ok s ∧
      s.plainFields = ({} : Settings).plainFields.map (fun f =>
        (f.1, ((overrides.get? f.1).or
          ((file.get? f.1).or ((defaultsOf language).get? f.1))).getD f.2)) ∧
      s.custom = .value (.obj members) ∧
      ∀ key, Json.Fields.get? members key =
        ((beside? overrides key).or (beside? file key)).or
          ((inCustom? overrides key).or
            ((inCustom? file key).or (inCustom? (defaultsOf language) key))) := by
  refine load_of_fileFields language ?_ hfile hoverrides
  unfold fileFields
  rw [if_pos (by simpa [Json.truthy] using hpath)]
  exact hread

end Phrasebook.Settings
