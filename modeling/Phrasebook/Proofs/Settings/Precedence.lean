-- SUMMARY: When the overrides win over a settings file, and when the file hides them.
import Mathlib.Data.List.Basic
import Mathlib.Tactic.Common
import Phrasebook.Proofs.CommandLine.FlagOverrides

/-!
# Precedence

The fields that every language has come from the overrides if these give them,
else from the file. For a key that only the language knows this holds unless the
two write it on different levels: what a file gives beside its fields hides what
the overrides give in their custom section, as the flags do.
-/

namespace Phrasebook.Settings

open CommandLine

/-- A file hides what the overrides give for a key: they give it in their custom section alone, and
the file gives another value beside its fields. -/
def Hides (file overrides : Json.Fields) (key : String) : Prop :=
  beside? overrides key = none ∧
    ∃ own other, inCustom? overrides key = some own ∧ beside? file key = some other ∧ other ≠ own

/-- The first of the overrides, the file and the defaults that gives a key is the first one on both
levels, unless the file hides the overrides. -/
theorem levels_eq_layers_iff {file overrides defaults : Json.Fields} {key : String}
    (hdefaults : beside? defaults key = none) :
    ((beside? overrides key).or (beside? file key)).or
        ((inCustom? overrides key).or ((inCustom? file key).or (inCustom? defaults key))) =
      (given? overrides key).or ((given? file key).or (given? defaults key)) ↔
    ¬ Hides file overrides key := by
  unfold Hides given?
  rw [hdefaults]
  cases beside? overrides key with
  | some v => simp
  | none =>
    cases beside? file key with
    | none => simp
    | some w =>
      cases inCustom? overrides key with
      | none => simp
      | some v => simp

/-- Settings from a file and overrides: every field comes from the first of the overrides, the file
and the defaults that gives it, and so does every key that only the language knows, unless the file
hides the overrides. A flag therefore wins over a file exactly if the file gives its option nowhere
beside its fields, or there with the same value. -/
theorem load_precedence {store : Store} {language path : String} {file overrides : Json.Fields}
    (hpath : path ≠ "") (hread : readFile store (Path.ofString path) = .ok file)
    (hfile : ∀ v, file.get? "custom" = some v → ∃ members, v = .obj members)
    (hkeys : Json.DistinctKeys (.obj overrides))
    (hoverrides : ∀ v, overrides.get? "custom" = some v → ∃ members, v = .obj members) :
    (∃ s members, load store language (.obj overrides) (.str path) = .ok s ∧
      s.plainFields = ({} : Settings).plainFields.map (fun f =>
        (f.1, ((overrides.get? f.1).or
          ((file.get? f.1).or ((defaultsOf language).get? f.1))).getD f.2)) ∧
      s.custom = .value (.obj members) ∧
      ∀ key, Json.Fields.get? members key =
          (given? overrides key).or ((given? file key).or (given? (defaultsOf language) key)) ↔
        ¬ Hides file overrides key) ∧
    ∀ q : GenerateRequest, ∃ s members,
      load store language (.obj q.overrides) (.str path) = .ok s ∧
      s.custom = .value (.obj members) ∧
      ∀ option v, q.custom.get? option = some v →
        (Json.Fields.get? members option = some v ↔
          ∀ other, file.get? option = some other → other = v) := by
  have hlayer : IsLayer file := isLayer_of_distinctKeys (distinctKeys_readFile hread) hfile
  constructor
  · have hlayer' : IsLayer overrides := isLayer_of_distinctKeys hkeys hoverrides
    obtain ⟨s, members, hs, hplain, hcustom, hmembers⟩ :=
      load_layers language hpath hread hlayer hlayer'
    refine ⟨s, members, hs, hplain, hcustom, ?_⟩
    intro key
    rw [hmembers key]
    exact levels_eq_layers_iff (beside?_defaultsOf language key)
  · intro q
    obtain ⟨s, members, hs, -, hcustom, hmembers⟩ :=
      load_layers language hpath hread hlayer q.isLayer_overrides
    refine ⟨s, members, hs, hcustom, ?_⟩
    intro option v hoption
    have hin : inCustom? q.overrides option = some v := by
      rw [inCustom?, q.customMembers_overrides, hoption]
    have hbeside : beside? file option = file.get? option := by
      rw [beside?, GenerateRequest.not_field_of_custom hoption]
      rfl
    rw [hmembers option, q.beside?_overrides, hin, hbeside]
    cases file.get? option with
    | none => simp
    | some other => simp

/-- A store with one settings file, which gives a type beside its fields. -/
def lookupTypeStore : Store where
  nodes := [(["c.json"], .file (Text.Utf8.encode "\x7b\"lookup_type\": \"A\"\x7d".toList))]

theorem readFile_lookupTypeStore :
    readFile lookupTypeStore (Path.ofString "c.json") = .ok [("lookup_type", .str "A")] := by
  have hexists : lookupTypeStore.exists? (Path.ofString "c.json") = .ok true := by decide +kernel
  have hbytes : lookupTypeStore.read (Path.ofString "c.json") =
      .ok (Text.Utf8.encode "\x7b\"lookup_type\": \"A\"\x7d".toList) := by decide +kernel
  have hdecode : Text.Utf8.decode (Text.Utf8.encode "\x7b\"lookup_type\": \"A\"\x7d".toList) =
      .ok "\x7b\"lookup_type\": \"A\"\x7d".toList := by decide +kernel
  have hunify : String.ofList (Text.Utf8.unifyBreaks "\x7b\"lookup_type\": \"A\"\x7d".toList) =
      "\x7b\"lookup_type\": \"A\"\x7d" := by decide +kernel
  refine readFile_eq_ok hexists (by decide +kernel) hbytes hdecode ?_
  rw [hunify]
  simp only [Json.parse, String.reduceToList]
  rfl

/-- Overrides on the same level as the file win over it. -/
theorem load_precedence_of_lookup_type :
    let file : Json.Fields := [("lookup_type", .str "A")]
    let overrides : Json.Fields := [("lookup_type", .str "B")]
    readFile lookupTypeStore (Path.ofString "c.json") = .ok file ∧
    Json.DistinctKeys (.obj overrides) ∧ ¬ Hides file overrides "lookup_type" ∧
    ∃ s members, load lookupTypeStore "dart" (.obj overrides) (.str "c.json") = .ok s ∧
      s.custom = .value (.obj members) ∧
      Json.Fields.get? members "lookup_type" = some (.str "B") := by
  intro file overrides
  have hkeys : Json.DistinctKeys (.obj overrides) := by
    refine .obj (by simp [overrides, Json.Fields.keys]) ?_
    simp only [overrides, List.forall_mem_singleton]
    exact .str "B"
  have hnot : ¬ Hides file overrides "lookup_type" := by
    rintro ⟨hnone, -⟩
    cases hnone
  have hfile : ∀ v, file.get? "custom" = some v → ∃ members, v = .obj members := by
    intro v hv
    cases hv
  have hoverrides : ∀ v, overrides.get? "custom" = some v → ∃ members, v = .obj members := by
    intro v hv
    cases hv
  obtain ⟨⟨s, members, hs, -, hcustom, hmembers⟩, -⟩ :=
    load_precedence (by decide) readFile_lookupTypeStore hfile hkeys hoverrides
  exact ⟨readFile_lookupTypeStore, hkeys, hnot, s, members, hs, hcustom,
    (hmembers "lookup_type").mpr hnot⟩

/-- In their custom section, where the flag for it writes it, the same override is hidden by the
file. -/
theorem lookup_type_hidden :
    let file : Json.Fields := [("lookup_type", .str "A")]
    let overrides : Json.Fields := [("custom", .obj [("lookup_type", .str "B")])]
    readFile lookupTypeStore (Path.ofString "c.json") = .ok file ∧
    overrides = ({ lookupType := some "B" } : GenerateRequest).overrides ∧
    given? overrides "lookup_type" = some (.str "B") ∧
    ∃ s members, load lookupTypeStore "dart" (.obj overrides) (.str "c.json") = .ok s ∧
      s.custom = .value (.obj members) ∧
      Json.Fields.get? members "lookup_type" = some (.str "A") := by
  intro file overrides
  have hnone : file.get? "custom" = none := rfl
  have hfile : IsLayer file :=
    ⟨by simp [file, Json.Fields.keys], by simp [hnone], List.nodup_nil⟩
  have hflags : overrides = ({ lookupType := some "B" } : GenerateRequest).overrides := by rfl
  have hoverrides : IsLayer overrides := hflags ▸ GenerateRequest.isLayer_overrides _
  obtain ⟨s, members, hs, -, hcustom, hmembers⟩ :=
    load_layers "dart" (by decide) readFile_lookupTypeStore hfile hoverrides
  exact ⟨readFile_lookupTypeStore, hflags, rfl, s, members, hs, hcustom, hmembers "lookup_type"⟩

end Phrasebook.Settings
