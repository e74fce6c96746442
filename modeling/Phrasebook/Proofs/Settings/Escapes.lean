-- SUMMARY: Which settings files and values end loading by a fault that is not one of settings itself.
import Phrasebook.Proofs.Settings.Misuse
import Phrasebook.Proofs.Store.Locating

/-!
# Settings that cannot be loaded

Loading settings has a fault of its own for most of what can go wrong with the
file. It passes on the faults of a path that cannot be asked for, of bytes that
are no text and of a text beyond a limit of the JSON reader, and it passes on a
misuse of a value.
-/

namespace Phrasebook.Settings

open Text

/-- A fault that is passed on. -/
inductive Fault.Escapes : Fault → Prop
  | encoding (fault : Utf8.Fault) : Escapes (.encoding fault)
  | badPath (path : Path) (fault : Store.Fault) : Escapes (.badPath path fault)
  | excess (e : Json.Excess) : Escapes (.excess e)
  | misuse (cause : Misuse) : Escapes (.misuse cause)

/-- A settings file whose path is too long to be asked for, whose bytes are no text, or whose text
goes beyond a limit. -/
inductive FileEscapes (store : Store) (path : Path) : Prop
  | path (h : store.locate path = .error .longName)
  | encoding {bytes : List UInt8} {fault : Utf8.Fault} (hsuffix : lower path.suffix = ".json")
      (hbytes : store.read path = .ok bytes) (hdecode : Utf8.decode bytes = .error fault)
  | excess {bytes : List UInt8} {cs : List Char} {e : Json.Excess}
      (hsuffix : lower path.suffix = ".json") (hbytes : store.read path = .ok bytes)
      (hdecode : Utf8.decode bytes = .ok cs)
      (hparse : Json.parse (String.ofList (Utf8.unifyBreaks cs)) = .error (.excess e))

/-- A value in a settings file that cannot be merged with overrides: a custom section that is no
object, where overrides have members for it or where it is to take further fields. -/
def MergeEscapes (file overrides : Json.Fields) : Prop :=
  ∃ v, Blocks file v ∧ ((∃ members, overrides.get? "custom" = some (.obj members)) ∨
    HasExtra file ∧ ∃ cause, membersOf v = .error cause)

variable {store : Store} {path : Path} {value : Json} {file overrides : Json.Fields}

/-! ## Files -/

theorem fileEscapes_of_readFile {fault : Fault} (h : readFile store path = .error fault)
    (hescapes : fault.Escapes) : FileEscapes store path := by
  unfold readFile at h
  split at h
  · rename_i fault hexists
    exact .path (Store.exists?_eq_error_iff.mp ⟨fault, hexists⟩)
  · cases h
    cases hescapes
  · split at h
    · cases h
      cases hescapes
    · rename_i hsuffix
      rw [bne_iff_ne, not_not] at hsuffix
      split at h
      · cases h
        cases hescapes
      · rename_i hbytes
        split at h
        · rename_i hdecode
          exact .encoding hsuffix hbytes hdecode
        · rename_i hdecode
          split at h
          · cases h
            cases hescapes
          · rename_i hparse
            exact .excess hsuffix hbytes hdecode hparse
          · cases h
          · cases h
            cases hescapes

theorem readFile_escapes_iff :
    (∃ fault, readFile store path = .error fault ∧ fault.Escapes) ↔ FileEscapes store path := by
  constructor
  · rintro ⟨fault, h, hescapes⟩
    exact fileEscapes_of_readFile h hescapes
  · intro h
    unfold readFile
    cases h with
    | path h =>
      obtain ⟨fault, hfault⟩ := Store.exists?_eq_error_iff.mpr h
      exact ⟨_, by rw [hfault], .badPath path fault⟩
    | encoding hsuffix hbytes hdecode =>
      rw [Store.exists?_of_read hbytes]
      simp only [hsuffix, hbytes, hdecode, bne_self_eq_false, Bool.false_eq_true, if_false]
      exact ⟨_, rfl, .encoding _⟩
    | excess hsuffix hbytes hdecode hparse =>
      rw [Store.exists?_of_read hbytes]
      simp only [hsuffix, hbytes, hdecode, hparse, bne_self_eq_false, Bool.false_eq_true, if_false]
      exact ⟨_, rfl, .excess _⟩

theorem fileFields_null : fileFields store .null = .ok [] := by
  simp [fileFields, Json.truthy]

theorem fileFields_str {name : String} (h : name ≠ "") :
    fileFields store (.str name) = readFile store (Path.ofString name) := by
  simp [fileFields, Json.truthy, h]

theorem fileFields_empty : fileFields store (.str "") = .ok [] := by
  simp [fileFields, Json.truthy]

/-- The keys of what a file gives are distinct. -/
theorem nodup_keys_fileFields (h : fileFields store value = .ok file) : file.keys.Nodup := by
  unfold fileFields at h
  split at h
  · split at h
    · exact (distinctKeys_readFile h).nodup_keys
    · cases h
  · cases h
    exact List.nodup_nil

/-! ## Layers -/

/-- A fault of loading settings is passed on exactly if the file has one or if its fields cannot be
merged with the overrides. -/
theorem load_escapes_iff (language : String) (hoverrides : IsLayer overrides)
    (hextra : ¬ HasExtra overrides) :
    (∃ fault, load store language (.obj overrides) value = .error fault ∧ fault.Escapes) ↔
      (∃ fault, fileFields store value = .error fault ∧ fault.Escapes) ∨
        ∃ file, fileFields store value = .ok file ∧ MergeEscapes file overrides := by
  rw [load_eq_bind]
  cases hfile : fileFields store value with
  | error fault => simp [Except.bind]
  | ok file =>
    have hmerge := ofLayers_eq_error_iff language (nodup_keys_fileFields hfile) hoverrides hextra
    simp only [Except.bind, Except.mapError_eq_error_iff, Except.ok.injEq, exists_eq_left',
      reduceCtorEq, false_and, exists_false, false_or, MergeEscapes, ← hmerge]
    constructor
    · rintro ⟨_, ⟨cause, hcause, rfl⟩, -⟩
      exact ⟨cause, hcause⟩
    · rintro ⟨cause, hcause⟩
      exact ⟨_, ⟨cause, hcause, rfl⟩, .misuse cause⟩

end Phrasebook.Settings
