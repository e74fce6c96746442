-- SUMMARY: Which sources are loaded, and which faults loading has for all others.
import Phrasebook.Proofs.Loading.Agreement
import Phrasebook.Proofs.Text.Lines

/-!
# The faults of loading

Whatever the sources are and whatever is found there, loading returns the
document of the one source that is given, or has a fault. The fault is one of
its own unless a path holds a NUL character, an address falls apart, or a text
goes beyond a limit of the reader.
-/

namespace Phrasebook.Loading

open Text

variable {world : World} {store : Store} {fetch : String → Fetch} {sources : Sources}
  {file url text source : String} {loaded : Loaded} {fields : Json.Fields} {c : Char}

/-! ## Paths -/

theorem mem_root_ofString (hc : c ∈ (Path.ofString file).root.toList) : c = '/' := by
  unfold Path.ofString at hc
  dsimp only at hc
  split at hc
  · cases hc
  · split at hc <;> simpa using hc

theorem mem_parts_ofString_iff {part : String} : part ∈ (Path.ofString file).parts ↔
    part.toList ∈ split '/' file.toList ∧ part ≠ "" ∧ part ≠ "." := by
  simp only [Path.ofString, List.mem_filter, List.mem_map, Bool.and_eq_true, bne_iff_ne, ne_eq]
  refine and_congr_left fun _ => ?_
  constructor
  · rintro ⟨piece, hpiece, rfl⟩
    rwa [String.toList_ofList]
  · intro hpiece
    exact ⟨_, hpiece, String.ofList_toList⟩

/-- The text of a path holds the characters of what it is read from, slashes and points apart. -/
theorem mem_text_ofString_iff (hslash : c ≠ '/') (hpoint : c ≠ '.') :
    c ∈ (Path.ofString file).text.toList ↔ c ∈ file.toList := by
  unfold Path.text
  constructor
  · intro hc
    split at hc
    · exact absurd (by simpa using hc) hpoint
    · rw [String.toList_append, List.mem_append, toList_joinStrings] at hc
      rcases hc with hc | hc
      · exact absurd (mem_root_ofString hc) hslash
      · rcases mem_join hc with hc | ⟨piece, hpiece, hc⟩
        · exact absurd (by simpa using hc) hslash
        · obtain ⟨part, hpart, rfl⟩ := List.mem_map.mp hpiece
          exact (mem_of_mem_split (mem_parts_ofString_iff.mp hpart).1 hc).1
  · intro hc
    rw [← join_split '/' file.toList] at hc
    rcases mem_join hc with hc | ⟨piece, hpiece, hc⟩
    · exact absurd (by simpa using hc) hslash
    · have hpart : String.ofList piece ∈ (Path.ofString file).parts := by
        rw [mem_parts_ofString_iff, String.toList_ofList]
        refine ⟨hpiece, ?_, ?_⟩ <;> intro heq
        · rw [String.ofList_eq_empty_iff.mp heq] at hc
          cases hc
        · rw [← String.toList_inj, String.toList_ofList] at heq
          rw [heq] at hc
          exact hpoint (by simpa using hc)
      have hne : (Path.ofString file).parts.isEmpty = false := by
        rw [List.isEmpty_eq_false_iff]
        exact List.ne_nil_of_mem hpart
      rw [hne, Bool.and_false, if_neg (by decide), String.toList_append, List.mem_append,
        toList_joinStrings]
      refine .inr (mem_join_of_mem (List.mem_map_of_mem hpart) ?_)
      rwa [String.toList_ofList]

theorem hasNul_ofString_iff : Store.HasNul (Path.ofString file) ↔ '\x00' ∈ file.toList :=
  mem_text_ofString_iff (by decide) (by decide)

/-! ## Documents -/

/-- What names the one source that is given. -/
def Sources.description? : Sources → Option String
  | ⟨some file, none, none⟩ => some file
  | ⟨none, some url, none⟩ => some url
  | ⟨none, none, some _⟩ => some streamSource
  | _ => none

/-- What is loaded is named for the one source and has the shape of a document. -/
structure IsOf (loaded : Loaded) (sources : Sources) : Prop where
  described : sources.description? = some loaded.source
  shape : HasShape (.obj loaded.fields) loaded.fields

theorem hasShape_of_decode (h : (decode text source).1 = .ok fields) :
    HasShape (.obj fields) fields := by
  unfold decode at h
  split at h
  · cases h
  · cases h
  · have hshape := checkShape_eq_ok_iff.mp h
    exact hshape.object ▸ hshape

theorem hasShape_of_ofFile (h : (ofFile store file).1 = .ok fields) :
    HasShape (.obj fields) fields := by
  unfold ofFile at h
  dsimp only at h
  split at h
  · cases h
  · exact hasShape_of_decode h

theorem hasShape_of_ofUrl (h : (ofUrl fetch url).1 = .ok fields) :
    HasShape (.obj fields) fields := by
  unfold ofUrl at h
  split at h
  · cases h
  · exact hasShape_of_decode h

/-- A source that is named for what it is described by, and read as a document. -/
theorem isOf_of_map {r : Except Fault Json.Fields} (h : r.map (Loaded.mk source) = .ok loaded)
    (hdescribed : sources.description? = some source)
    (hshape : ∀ fields, r = .ok fields → HasShape (.obj fields) fields) : IsOf loaded sources := by
  obtain ⟨fields, hfields, rfl⟩ := Except.map_eq_ok_iff.mp h
  exact ⟨hdescribed, hshape fields hfields⟩

/-- Whatever is loaded is a document of the one source that is given. -/
theorem isOf_of_load (h : (load world sources).1 = .ok loaded) : IsOf loaded sources := by
  rcases sources with ⟨_ | file, _ | url, _ | text⟩
  · cases h
  · simp only [load_stream] at h
    exact isOf_of_map h rfl fun _ => hasShape_of_decode
  · simp only [load_url] at h
    exact isOf_of_map h rfl fun _ => hasShape_of_ofUrl
  · cases h
  · simp only [load_file] at h
    exact isOf_of_map h rfl fun _ => hasShape_of_ofFile
  -- More than one source is given.
  all_goals cases h

/-! ## Faults -/

theorem Sources.escapes_iff : sources.Escapes world ↔
    (∃ file, sources = { file := some file } ∧ '\x00' ∈ file.toList) ∨
      (∃ url, sources = { url := some url } ∧ Url.ofString? url = none) ∨
        ∃ text e, HasText world sources text ∧ Exceeds text e := by
  constructor
  · rintro (hpath | hurl | ⟨htext, hparse⟩)
    · exact .inl ⟨_, rfl, hasNul_ofString_iff.mp hpath⟩
    · exact .inr (.inl ⟨_, rfl, hurl⟩)
    · exact .inr (.inr ⟨_, _, htext, hparse⟩)
  · rintro (⟨file, rfl, hnul⟩ | ⟨url, rfl, hurl⟩ | ⟨text, e, htext, hparse⟩)
    · exact .path (hasNul_ofString_iff.mpr hnul)
    · exact .address hurl
    · exact .excess htext hparse

/-- Loading returns a document of the one source that is given, or has a fault of its own, exactly
unless the path holds a NUL character, the address falls apart, or the text goes beyond a limit. -/
theorem load_settles_iff (world : World) (sources : Sources) :
    ((∃ loaded, (load world sources).1 = .ok loaded ∧ IsOf loaded sources) ∨
        ∃ fault, (load world sources).1 = .error fault ∧ ¬ fault.Escapes) ↔
      ¬ ((∃ file, sources = { file := some file } ∧ '\x00' ∈ file.toList) ∨
        (∃ url, sources = { url := some url } ∧ Url.ofString? url = none) ∨
          ∃ text e, HasText world sources text ∧ Exceeds text e) := by
  rw [← Sources.escapes_iff, ← load_escapes_iff]
  constructor
  · rintro (⟨loaded, hloaded, -⟩ | ⟨fault, hfault, hown⟩) ⟨passed, hpassed, hescapes⟩
    · rw [hloaded] at hpassed
      cases hpassed
    · rw [hfault] at hpassed
      cases hpassed
      exact hown hescapes
  · intro hescapes
    cases hload : (load world sources).1 with
    | ok loaded => exact .inl ⟨loaded, rfl, isOf_of_load hload⟩
    | error fault => exact .inr ⟨fault, rfl, fun h => hescapes ⟨fault, hload, h⟩⟩

/-- An address with a bracket that is not closed is passed on as a fault of another kind. -/
theorem load_unsettled_of_open_bracket :
    ¬ ((∃ loaded, (load {} { url := some "http://[" }).1 = .ok loaded ∧
          IsOf loaded { url := some "http://[" }) ∨
        ∃ fault, (load {} { url := some "http://[" }).1 = .error fault ∧ ¬ fault.Escapes) := by
  have hload : (load {} { url := some "http://[" }).1 = .error .splitUrl := rfl
  rintro (⟨loaded, hloaded, -⟩ | ⟨fault, hfault, hown⟩)
  · rw [hload] at hloaded
    cases hloaded
  · rw [hload] at hfault
    cases hfault
    exact hown .splitUrl

end Phrasebook.Loading
