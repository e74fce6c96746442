-- SUMMARY: Settings that are saved and loaded again: which custom keys keep them from coming back equal.
import Mathlib.Data.List.Basic
import Mathlib.Tactic.Common
import Phrasebook.Proofs.Json.Written
import Phrasebook.Proofs.Settings.Equality
import Phrasebook.Proofs.Settings.Escapes
import Phrasebook.Proofs.Store.Writing
import Phrasebook.Proofs.Text.Utf8

/-!
# Saving and loading

A settings file has one level: the members of the custom section stand beside
the fields that every language has. Loading takes whatever is no such field back
into the custom section, and so the settings come back equal exactly if no
member has the name of a field.

A member that has such a name is lost to the field, and what is then found under
its name, if anything, lies inside the value that was saved: less deep, and so
not equal to it.
-/

namespace Phrasebook.Settings

open Text

variable {store store' : Store} {path : Path} {language name : String} {s s' : Settings}
  {fields members base layer overrides : Json.Fields} {v w : Json}

/-! ## Saved fields -/

/-- The fields of the file that settings with the given custom members are saved to. -/
def savedFields (s : Settings) (members : Json.Fields) : Json.Fields :=
  s.plainFields.putAll members

theorem toMembers_eq (h : s.custom = .value (.obj members)) :
    s.toMembers = .ok (.ofFields (s.savedFields members)) := by
  unfold toMembers
  rw [h]
  change Except.ok ((Members.ofFields s.plainFields).putAll (.ofFields members)) = _
  rw [Members.putAll_ofFields]
  rfl

theorem fileText_eq (h : s.custom = .value (.obj members)) :
    s.fileText = .ok (Json.obj (s.savedFields members)).pretty := by
  unfold fileText
  rw [toMembers_eq h]
  change Except.ok (Json.obj (Members.ofFields (s.savedFields members)).fields).pretty = _
  rw [Members.fields_ofFields]

theorem get?_savedFields (h : members.keys.Nodup) (key : String) :
    (s.savedFields members).get? key = (members.get? key).or (s.plainFields.get? key) :=
  Json.Fields.get?_putAll h _ _

theorem keys_plainFields (s : Settings) : s.plainFields.keys ++ ["custom"] = fieldNames :=
  rfl

theorem nodup_keys_plainFields (s : Settings) : s.plainFields.keys.Nodup := by
  have hnodup : (s.plainFields.keys ++ ["custom"]).Nodup := by
    rw [keys_plainFields]
    decide
  exact (List.nodup_append.mp hnodup).1

theorem get?_plainFields_of_not_field (h : name ∉ fieldNames) : s.plainFields.get? name = none := by
  rw [Json.Fields.get?_eq_none_iff]
  intro hmem
  exact h (s.keys_plainFields ▸ List.mem_append_left _ hmem)

/-! ## The file -/

/-- The reader of JSON undoes writing on what the settings are saved as. -/
def ReadsBack (s : Settings) : Prop :=
  ∀ members, s.toMembers = .ok members →
    Json.parse (Json.obj members.fields).pretty = .ok (.obj members.fields)

theorem exists_save {text : String} (htext : s.fileText = .ok text)
    (hpath : store.IsWritable path) : ∃ store', save store s path = .ok store' ∧
      store.write path (Utf8.encode text.toList) = .ok store' := by
  obtain ⟨store', hwrite⟩ := hpath.exists_write (Utf8.encode text.toList)
  refine ⟨store', ?_, hwrite⟩
  unfold save
  simp only [htext, hwrite]

/-- A value that is written to a file comes back from it if the reader of JSON undoes writing. -/
theorem readFile_of_write (hsuffix : lower path.suffix = ".json")
    (hwrite : store.write path (Utf8.encode (Json.obj fields).pretty.toList) = .ok store')
    (hparse : Json.parse (Json.obj fields).pretty = .ok (.obj fields)) :
    readFile store' path = .ok fields := by
  have hread := Store.read_of_write hwrite
  refine readFile_eq_ok (Store.exists?_of_read hread) hsuffix hread (Utf8.decode_encode _) ?_
  rw [Utf8.unifyBreaks_eq_self (Json.not_mem_pretty _), String.ofList_toList, hparse]

/-! ## Regular settings -/

/-- Settings from the defaults of a language and overrides, all of whose values are regular. -/
structure Fresh (language : String) (s : Settings) (members : Json.Fields) : Prop where
  custom : s.custom = .value (.obj members)
  plain : ∀ f ∈ s.plainFields, f.2.Regular
  regular : (Json.obj members).Regular
  /-- No key of the defaults is missing. -/
  defaults : ∀ key, Json.Fields.get? members key = none → inCustom? (defaultsOf language) key = none

theorem regular_defaultsOf (language : String) : (Json.obj (defaultsOf language)).Regular := by
  unfold defaultsOf languageDefaults
  rw [List.lookup_cons]
  split
  · simp [Json.Fields.keys]
  · simp [Json.Fields.keys]

theorem regular_customMembers (h : (Json.obj layer).Regular) :
    (Json.obj (customMembers layer)).Regular := by
  unfold customMembers
  split
  · rename_i members hcustom
    exact h.of_get? hcustom
  · simp [Json.Fields.keys]

theorem regular_of_given? (h : (Json.obj layer).Regular) (hv : given? layer name = some v) :
    v.Regular := by
  rw [given?, Option.or_eq_some_iff] at hv
  rcases hv with hbeside | ⟨-, hin⟩
  · unfold beside? at hbeside
    split at hbeside
    · cases hbeside
    · exact h.of_get? hbeside
  · exact (regular_customMembers h).of_get? hin

/-- The custom section of merged fields has every key once. -/
theorem nodup_keys_of_ofMerged (h : IsLayer base) (hs : ofMerged base = .ok s)
    (hcustom : s.custom = .value (.obj members)) : members.keys.Nodup := by
  have hown := ofKnown_custom h
  unfold ofMerged at hs
  simp only [hown, Custom.extend] at hs
  split at hs
  · cases hs
    rw [hown] at hcustom
    cases hcustom
    exact h.custom_keys_nodup
  · cases hs
    cases hcustom
    exact Json.Fields.nodup_keys_putAll h.custom_keys_nodup

theorem nodup_keys_of_load {value : Json} {file : Json.Fields}
    (hfields : fileFields store value = .ok file) (hfile : IsLayer file)
    (hoverrides : IsLayer overrides) (hs : load store language (.obj overrides) value = .ok s)
    (hcustom : s.custom = .value (.obj members)) : members.keys.Nodup := by
  rw [load_eq_bind, hfields, Except.bind, Except.mapError_eq_ok_iff] at hs
  obtain ⟨middle, hmiddle, hover⟩ := overlays_merge (isLayer_defaultsOf language) hfile
  obtain ⟨result, hresult, hover'⟩ := overlays_merge hover.isLayer hoverrides
  have hmerged : ofMerged result = .ok s := by
    simpa only [ofLayers, hmiddle, hresult, bind, Except.bind] using hs
  exact nodup_keys_of_ofMerged hover'.isLayer hmerged hcustom

theorem fresh_of_load (store : Store) (language : String) (hregular : (Json.obj overrides).Regular)
    (hcustom : ∀ v, overrides.get? "custom" = some v → ∃ members, v = .obj members) :
    ∃ s members, load store language (.obj overrides) .null = .ok s ∧ Fresh language s members := by
  have hlayer : IsLayer overrides := isLayer_of_distinctKeys hregular.distinctKeys hcustom
  obtain ⟨s, members, hs, hplain, hobj, hmembers⟩ :=
    load_of_fileFields language (fileFields_null : fileFields store .null = _) isLayer_nil hlayer
  have hgiven : ∀ key, Json.Fields.get? members key =
      (given? overrides key).or (inCustom? (defaultsOf language) key) := by
    intro key
    have hbeside : beside? [] key = none := by simp [beside?]
    have hin : inCustom? [] key = none := rfl
    rw [hmembers, hbeside, hin, given?, Option.or_none, Option.none_or, Option.or_assoc]
  refine ⟨s, members, hs, hobj, ?plain, ?regular, ?defaults⟩
  case plain =>
    rw [hplain, List.forall_mem_map]
    intro f hf
    have hinitial : ∀ f ∈ ({} : Settings).plainFields, f.2.Regular := by
      simp [plainFields]
    rw [Json.Fields.get?_nil, Option.none_or]
    cases hover : overrides.get? f.1 with
    | some v => exact hregular.of_get? hover
    | none =>
      cases hdefault : (defaultsOf language).get? f.1 with
      | some v => exact (regular_defaultsOf language).of_get? hdefault
      | none => exact hinitial f hf
  case regular =>
    have hnodup := nodup_keys_of_load fileFields_null isLayer_nil hlayer hs hobj
    refine Json.regular_obj_iff.mpr ⟨hnodup, fun f hf => ?_⟩
    have hv := Json.Fields.get?_of_mem hnodup hf
    rw [hgiven, Option.or_eq_some_iff] at hv
    rcases hv with hv | ⟨-, hv⟩
    · exact regular_of_given? hregular hv
    · exact (regular_customMembers (regular_defaultsOf language)).of_get? hv
  case defaults =>
    intro key hnone
    rw [hgiven, Option.or_eq_none_iff] at hnone
    exact hnone.2

/-! ## Members inside a value -/

theorem depth_le_of_memberOfPair {m : Key × Json} (h : memberOfPair v = .ok m) :
    m.2.depth ≤ v.depth := by
  unfold memberOfPair at h
  split at h
  · rename_i key value
    obtain ⟨k, -, hm⟩ := Except.bind_eq_ok_iff.mp h
    cases hm
    exact Nat.le_of_lt (Json.depth_lt_of_mem_arr (List.mem_cons_of_mem _ List.mem_cons_self))
  · cases h
  · cases h
    exact Nat.zero_le _
  · cases h
  · split at h
    · cases h
      exact Nat.zero_le _
    · cases h
  · cases h

theorem exists_of_membersOfPairs {items : List Json} {ms : Members}
    (h : membersOfPairs items = .ok ms) {m : Key × Json} (hm : m ∈ ms) :
    ∃ item ∈ items, memberOfPair item = .ok m := by
  induction items generalizing ms with
  | nil =>
    cases h
    cases hm
  | cons item items ih =>
    obtain ⟨first, hfirst, hbind⟩ := Except.bind_eq_ok_iff.mp h
    obtain ⟨rest, hrest, hms⟩ := Except.bind_eq_ok_iff.mp hbind
    cases hms
    rcases List.mem_cons.mp hm with rfl | hm
    · exact ⟨item, List.mem_cons_self, hfirst⟩
    · obtain ⟨item', hitem', hpair⟩ := ih hrest hm
      exact ⟨item', List.mem_cons_of_mem _ hitem', hpair⟩

/-- The members that a value stands for lie inside it. -/
theorem depth_lt_of_membersOf {ms : Members} (h : membersOf v = .ok ms) {m : Key × Json}
    (hm : m ∈ ms) : m.2.depth < v.depth := by
  unfold membersOf at h
  split at h
  · cases h
    obtain ⟨f, hf, rfl⟩ := List.mem_map.mp hm
    exact Json.depth_lt_of_mem_obj hf
  · obtain ⟨pairs, hpairs, hms⟩ := Except.bind_eq_ok_iff.mp h
    cases hms
    obtain hnil | ⟨n, hn, -, heq⟩ := Members.mem_putAll hm
    · cases hnil
    · obtain ⟨item, hitem, hpair⟩ := exists_of_membersOfPairs hpairs hn
      calc m.2.depth = n.2.depth := by rw [heq]
        _ ≤ item.depth := depth_le_of_memberOfPair hpair
        _ < _ := Json.depth_lt_of_mem_arr hitem
  · split at h
    · cases h
      cases hm
    · cases h
  · cases h

/-- A custom section that is no object is kept, or gives way to the members it stands for and the
fields that are none of every language. -/
theorem custom_of_blocks (hblocks : Blocks base v) (hs : ofMerged base = .ok s) :
    s.custom = .value v ∨ ∃ own extra, membersOf v = .ok own ∧
      s.custom = .members (own.putAll (.ofFields extra)) ∧ "custom" ∉ extra.keys := by
  obtain ⟨hv, hnot⟩ := hblocks
  have hown : (ofKnown base).custom = .value v := by
    unfold ofKnown
    rw [hv]
    rfl
  unfold ofMerged at hs
  simp only [hown] at hs
  split at hs
  · cases hs
    exact .inl hown
  · obtain ⟨custom, hextend, heq⟩ := Except.bind_eq_ok_iff.mp hs
    cases heq
    unfold Custom.extend at hextend
    split at hextend
    · rename_i own heq
      cases heq
      exact absurd rfl (hnot own)
    · obtain ⟨own, hown, heq⟩ := Except.bind_eq_ok_iff.mp hextend
      cases heq
      refine .inr ⟨own, _, hown, rfl, ?_⟩
      rw [← Json.Fields.get?_eq_none_iff, Json.Fields.get?_filter (!fieldNames.contains ·)]
      rfl

/-- What is then in the section under its own name lies inside the value. -/
theorem depth_lt_of_blocks {ms : Members} (hblocks : Blocks base v) (hs : ofMerged base = .ok s)
    (hms : s.custom.members? = some ms) (hw : (.text "custom", w) ∈ ms) : w.depth < v.depth := by
  rcases custom_of_blocks hblocks hs with hkept | ⟨own, extra, hown, htaken, hextra⟩
  · rw [hkept] at hms
    unfold Custom.members? at hms
    split at hms
    · rename_i own heq
      cases heq
      exact absurd rfl (hblocks.2 own)
    · cases hms
    · cases ‹Custom.value _ = _›
  · rw [htaken] at hms
    cases hms
    rcases Members.mem_putAll hw with hw | ⟨n, hn, hsame, -⟩
    · exact depth_lt_of_membersOf hown hw
    · obtain ⟨k, u⟩ := n
      obtain rfl := Key.text_same_iff.mp hsame
      exact absurd (List.mem_map.mpr ⟨_, Members.mem_ofFields.mp hn, rfl⟩) hextra

/-! ## Reloading -/

variable {value : Json}

/-- Loading without overrides puts the file over the defaults. -/
theorem load_null (store : Store) (language : String) (value : Json) :
    load store language .null value = (fileFields store value).bind fun file =>
      (ofLayers language file []).mapError .misuse :=
  load_eq_bind store language [] value

/-- What is loaded from a file alone whose custom section, if it has one, is an object. -/
theorem reload_of_isLayer (language : String) (hfields : fileFields store value = .ok fields)
    (hlayer : IsLayer fields) :
    ∃ s members, load store language .null value = .ok s ∧
      s.plainFields = ({} : Settings).plainFields.map (fun f =>
        (f.1, ((fields.get? f.1).or ((defaultsOf language).get? f.1)).getD f.2)) ∧
      s.custom = .value (.obj members) ∧ (Json.Fields.keys members).Nodup ∧
      ∀ key, Json.Fields.get? members key = (beside? fields key).or
        ((inCustom? fields key).or (inCustom? (defaultsOf language) key)) := by
  obtain ⟨s, members, hs, hplain, hcustom, hmembers⟩ :=
    load_of_fileFields language hfields hlayer isLayer_nil
  have hbeside : ∀ key, beside? [] key = none := by simp [beside?]
  have hin : ∀ key, inCustom? [] key = none := fun _ => rfl
  simp only [Json.Fields.get?_nil, hbeside, hin, Option.none_or] at hplain hmembers
  exact ⟨s, members, hs, hplain, hcustom,
    nodup_keys_of_load hfields hlayer isLayer_nil hs hcustom, hmembers⟩

theorem beside?_of_field (h : name ∈ fieldNames) : beside? layer name = none :=
  if_pos (List.contains_iff_mem.mpr h)

theorem inCustom?_defaultsOf (language : String) (h : name ∈ fieldNames) :
    inCustom? (defaultsOf language) name = none := by
  have hnames : ∀ name ∈ fieldNames, name ∉ Json.Fields.keys (customMembers (defaultsOf language)) := by
    unfold defaultsOf languageDefaults
    rw [List.lookup_cons]
    split
    · decide
    · simp [customMembers, Json.Fields.keys]
  exact Json.Fields.get?_eq_none_iff.mpr (hnames name h)

/-- Whatever the custom section of a file is, what is loaded under its name lies inside it. -/
theorem depth_lt_of_reload {ms : Members} (hfields : fileFields store value = .ok fields)
    (hkeys : Json.DistinctKeys (.obj fields)) (hv : fields.get? "custom" = some v)
    (hs : load store language .null value = .ok s) (hms : s.custom.members? = some ms)
    (hw : (.text "custom", w) ∈ ms) : w.depth < v.depth := by
  by_cases hobj : ∃ own, v = .obj own
  · obtain ⟨own, rfl⟩ := hobj
    have hlayer : IsLayer fields := isLayer_of_distinctKeys hkeys fun u hu =>
      ⟨own, Option.some.inj (hu.symm.trans hv)⟩
    obtain ⟨t, members, ht, -, hcustom, hnodup, hmembers⟩ := reload_of_isLayer language hfields hlayer
    cases hs.symm.trans ht
    rw [hcustom] at hms
    cases hms
    have hget := Json.Fields.get?_of_mem hnodup (Members.mem_ofFields.mp hw)
    have hown : inCustom? fields "custom" = Json.Fields.get? own "custom" := by
      rw [inCustom?, customMembers, hv]
    have hfield : "custom" ∈ fieldNames := by decide
    rw [hmembers, beside?_of_field hfield, inCustom?_defaultsOf language hfield, hown,
      Option.none_or, Option.or_none] at hget
    exact Json.depth_lt_of_mem_obj (Json.Fields.mem_of_get? hget)
  · have hblocks : Blocks fields v := ⟨hv, fun own heq => hobj ⟨own, heq⟩⟩
    obtain ⟨middle, hmiddle, hmerged⟩ := exists_merge_defaults language hkeys.nodup_keys
    rw [load_null, hfields, Except.bind, Except.mapError_eq_ok_iff] at hs
    have hs : ofMerged middle = .ok s := by
      simpa only [ofLayers, hmiddle, merge, bind, Except.bind] using hs
    exact depth_lt_of_blocks ((hmerged v).mpr hblocks) hs hms hw

/-- From a file without a custom section no member is loaded that has the name of a field. -/
theorem not_mem_of_reload {ms : Members} (hfields : fileFields store value = .ok fields)
    (hlayer : IsLayer fields) (hnone : fields.get? "custom" = none) (hname : name ∈ fieldNames)
    (hs : load store language .null value = .ok s) (hms : s.custom.members? = some ms) :
    (.text name, w) ∉ ms := by
  obtain ⟨t, members, ht, -, hcustom, hnodup, hmembers⟩ := reload_of_isLayer language hfields hlayer
  cases hs.symm.trans ht
  rw [hcustom] at hms
  cases hms
  intro hw
  have hget := Json.Fields.get?_of_mem hnodup (Members.mem_ofFields.mp hw)
  have hown : inCustom? fields name = none := by
    rw [inCustom?, customMembers, hnone]
    rfl
  rw [hmembers, beside?_of_field hname, inCustom?_defaultsOf language hname, hown] at hget
  cases hget

theorem equals_of_plainFields (hplain : s'.plainFields = s.plainFields)
    (hregular : ∀ f ∈ s.plainFields, f.2.Regular) (hcustom : s.custom.equals s'.custom) :
    s.equals s' := by
  simp only [plainFields, List.cons.injEq, Prod.mk.injEq, true_and, and_true] at hplain
  simp only [plainFields, List.forall_mem_cons] at hregular
  obtain ⟨houtput, hclass, hending, hcase, hcomments⟩ := hplain
  obtain ⟨routput, rclass, rending, rcase, rcomments, -⟩ := hregular
  unfold Settings.equals
  rw [houtput, hclass, hending, hcase, hcomments]
  simp [Json.equals_self, *]

/-! ## Saving and loading -/

namespace Fresh

theorem nodup_keys (h : Fresh language s members) : (Json.Fields.keys members).Nodup :=
  h.regular.distinctKeys.nodup_keys

theorem regular_savedFields (h : Fresh language s members) :
    (Json.obj (s.savedFields members)).Regular := by
  refine Json.regular_obj_iff.mpr ⟨Json.Fields.nodup_keys_putAll s.nodup_keys_plainFields, ?_⟩
  exact Json.Fields.forall_putAll h.plain (Json.regular_obj_iff.mp h.regular).2

theorem isLayer_savedFields (h : Fresh language s members) (hnone : "custom" ∉ members.keys) :
    (s.savedFields members).get? "custom" = none ∧ IsLayer (s.savedFields members) := by
  have hget : (s.savedFields members).get? "custom" = none := by
    rw [get?_savedFields h.nodup_keys, Json.Fields.get?_eq_none_iff.mpr hnone]
    rfl
  refine ⟨hget, isLayer_of_distinctKeys h.regular_savedFields.distinctKeys fun v hv => ?_⟩
  rw [hget] at hv
  cases hv

/-- If no member has the name of a field, what is loaded is equal. -/
theorem reload (h : Fresh language s members) (hnames : ∀ name ∈ fieldNames, name ∉ members.keys)
    (hfields : fileFields store value = .ok (s.savedFields members)) :
    ∃ s', load store language .null value = .ok s' ∧ s.equals s' := by
  obtain ⟨hnone, hlayer⟩ := h.isLayer_savedFields (hnames "custom" (by decide))
  obtain ⟨s', members', hs', hplain, hcustom, -, hmembers⟩ :=
    reload_of_isLayer language hfields hlayer
  have hin : ∀ key, inCustom? (s.savedFields members) key = none := fun key => by
    rw [inCustom?, customMembers, hnone]
    rfl
  have hsame : ∀ key, Json.Fields.get? members' key = Json.Fields.get? members key := by
    intro key
    rw [hmembers, hin, Option.none_or]
    by_cases hfield : key ∈ fieldNames
    · have hlost := Json.Fields.get?_eq_none_iff.mpr (hnames key hfield)
      rw [beside?_of_field hfield, hlost, h.defaults key hlost]
      rfl
    · have hbeside : beside? (s.savedFields members) key = Json.Fields.get? members key := by
        rw [beside?, if_neg (by simpa using hfield), get?_savedFields h.nodup_keys,
          get?_plainFields_of_not_field hfield, Option.or_none]
      rw [hbeside]
      cases hkey : Json.Fields.get? members key with
      | none => exact h.defaults key hkey
      | some v => rfl
  have hplain' : s'.plainFields = s.plainFields := by
    have hfield : ∀ f ∈ ({} : Settings).plainFields,
        (s.savedFields members).get? f.1 = s.plainFields.get? f.1 := by
      intro f hf
      have hlost := Json.Fields.get?_eq_none_iff.mpr
        (hnames f.1 (keys_plainFields {} ▸ List.mem_append_left _ (List.mem_map_of_mem hf)))
      rw [get?_savedFields h.nodup_keys, hlost, Option.none_or]
    rw [hplain, List.map_congr_left fun f hf => by rw [hfield f hf]]
    rfl
  refine ⟨s', hs', equals_of_plainFields hplain' h.plain ?_⟩
  rw [h.custom, hcustom]
  exact Json.equals_of_get?_eq h.regular hsame

/-- If a member has the name of a field, nothing equal is loaded. -/
theorem not_equals_of_reload (h : Fresh language s members) (hname : name ∈ fieldNames)
    (hmember : name ∈ members.keys)
    (hfields : fileFields store value = .ok (s.savedFields members))
    (hs : load store language .null value = .ok s') : ¬ s.equals s' := by
  intro hequals
  have hcustom : (Custom.value (.obj members)).equals s'.custom := by
    rw [← h.custom]
    exact (Bool.and_eq_true_iff.mp hequals).2
  have hexists : ∀ key ∈ members.keys, ∃ v, members.get? key = some v ∧
      ∃ ms, s'.custom.members? = some ms ∧ ∃ w, (.text key, w) ∈ ms ∧ v.equals w := by
    intro key hkey
    cases hv : Json.Fields.get? members key with
    | none => exact absurd hkey (Json.Fields.get?_eq_none_iff.mp hv)
    | some v => exact ⟨v, rfl, Custom.exists_of_equals hcustom hv⟩
  by_cases hclash : "custom" ∈ members.keys
  · obtain ⟨v, hv, ms, hms, w, hw, heq⟩ := hexists _ hclash
    have hsaved : (s.savedFields members).get? "custom" = some v := by
      rw [get?_savedFields h.nodup_keys, hv]
      rfl
    have hlt := depth_lt_of_reload hfields h.regular_savedFields.distinctKeys hsaved hs hms hw
    exact absurd (Json.depth_le_of_equals heq) (Nat.not_le.mpr hlt)
  · obtain ⟨v, -, ms, hms, w, hw, -⟩ := hexists _ hmember
    obtain ⟨hnone, hlayer⟩ := h.isLayer_savedFields hclash
    exact not_mem_of_reload hfields hlayer hnone hname hs hms hw

end Fresh

/-- Settings from overrides whose text can be read back are saved to a JSON file, and loaded from it
they come back equal exactly if none of their custom members has the name of a field. -/
theorem load_save_iff {path : String} (language : String)
    (hregular : (Json.obj overrides).Regular)
    (hcustom : ∀ v, overrides.get? "custom" = some v → ∃ members, v = .obj members)
    (hpath : store.IsWritable (Path.ofString path))
    (hsuffix : lower (Path.ofString path).suffix = ".json") :
    ∃ s members, load store language (.obj overrides) .null = .ok s ∧
      s.custom = .value (.obj members) ∧
      (s.ReadsBack → ∃ store', save store s (Path.ofString path) = .ok store' ∧
        ((∃ s', load store' language .null (.str path) = .ok s' ∧ s.equals s') ↔
          ∀ name ∈ fieldNames, name ∉ Json.Fields.keys members)) := by
  obtain ⟨s, members, hs, hfresh⟩ := fresh_of_load store language hregular hcustom
  have htext := fileText_eq hfresh.custom
  obtain ⟨store', hsave, hwrite⟩ := exists_save htext hpath
  refine ⟨s, members, hs, hfresh.custom, fun hback => ⟨store', hsave, ?_⟩⟩
  have hparse := hback _ (toMembers_eq hfresh.custom)
  rw [Members.fields_ofFields] at hparse
  have hne : path ≠ "" := by
    rintro rfl
    exact absurd hsuffix (by decide)
  have hfields : fileFields store' (.str path) = .ok (s.savedFields members) := by
    rw [fileFields_str hne, readFile_of_write hsuffix hwrite hparse]
  constructor
  · rintro ⟨s', hs', heq⟩ name hname hmember
    exact hfresh.not_equals_of_reload hname hmember hfields hs' heq
  · intro hnames
    exact hfresh.reload hnames hfields

/-- Settings with one custom member, for a language without defaults. -/
def widened : Settings where
  custom := .value (.obj [("width", .int 2)])

set_option maxRecDepth 1000 in
theorem widened_readsBack : widened.ReadsBack := by
  intro members hmembers
  have hcustom : widened.custom = .value (.obj [("width", .int 2)]) := rfl
  rw [toMembers_eq hcustom] at hmembers
  cases hmembers
  have htext : (Json.obj (widened.savedFields [("width", .int 2)])).pretty =
      "\x7b\n  \"output_file\": null,\n  \"class_name\": \"I18n\",\n  \"line_ending\": \"\\n\",\n  \"key_case\": \"camel\",\n  \"add_comments\": true,\n  \"width\": 2\n\x7d" := by
    decide +kernel
  rw [Members.fields_ofFields, htext]
  simp only [Json.parse, String.reduceToList]
  rfl

/-- Such settings come back equal. -/
theorem load_save_widened :
    let overrides : Json.Fields := [("custom", .obj [("width", .int 2)])]
    load {} "plain" (.obj overrides) .null = .ok widened ∧ widened.ReadsBack ∧
    ∃ store', save {} widened (Path.ofString "saved.json") = .ok store' ∧
      ∃ s', load store' "plain" .null (.str "saved.json") = .ok s' ∧ widened.equals s' := by
  intro overrides
  have hload : load {} "plain" (.obj overrides) .null = .ok widened := rfl
  have hpath : Store.IsWritable {} (Path.ofString "saved.json") :=
    ⟨["saved.json"], by decide +kernel, by decide⟩
  have hregular : (Json.obj overrides).Regular := by
    simp [overrides, Json.Fields.keys]
  obtain ⟨s, members, hs, hcustom, hsaved⟩ := load_save_iff "plain" hregular
    (fun v hv => ⟨_, (Option.some.inj hv).symm⟩) hpath (by decide +kernel)
  obtain rfl : widened = s := Except.ok.inj (hload.symm.trans hs)
  obtain rfl : [("width", .int 2)] = members := Json.obj.inj (Custom.value.inj hcustom)
  obtain ⟨store', hsave, hiff⟩ := hsaved widened_readsBack
  exact ⟨hload, widened_readsBack, store', hsave, hiff.mpr (by decide)⟩

end Phrasebook.Settings
