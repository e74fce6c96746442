-- SUMMARY: Limits do not matter to a generation whose values can be shown within them.
import Phrasebook.Proofs.Generation.Spelling

/-!
# Limits of generation

Limits come into a generation in two places: where a case style that is none is
shown, and where the marker of missing texts is. Values that can be shown there
make the same class as without limits. Texts always can, and the marker is a text
unless a configuration gives another value for it. Nor does a class that is made
within limits differ from the one that is made without, so that what is said of
the latter holds of the former.
-/

namespace Phrasebook

open Settings

namespace Dart.Generator

variable {g : Dart.Generator} {limits : Limits} {document : Json} {b : Book} {code : String}
  {warnings : List Warning} {metadata : Metadata} {notices : List Notice}

theorem run_of_shown (h : g.unshownMarker? b limits.output = none) :
    g.toGenerator.run b limits = g.toGenerator.run b := by
  have hgenerate : g.toGenerator.generate limits b = g.toGenerator.generate {} b := by
    simp only [toGenerator, h]
    rfl
  unfold Phrasebook.Generator.run Phrasebook.Generator.tryGenerate
  rw [hgenerate]

/-- A generator both of whose values can be shown does the same within the limits as without. -/
theorem runDocument_of_shown (hcase : g.settings.keyCase.unshown? limits.keyCase = none)
    (hmarker : g.options.missingMarker.unshown? limits.output = none) (document : Json) :
    g.toGenerator.runDocument document limits = g.toGenerator.runDocument document := by
  have hkeyCase : Phrasebook.Generator.keyCaseFailure g.toGenerator.settings.keyCase limits.keyCase =
      .ok (.keyCase g.settings.keyCase) := by
    simp only [Phrasebook.Generator.keyCaseFailure, toGenerator, hcase]
  have hrun : ∀ b, g.toGenerator.run b limits = g.toGenerator.run b := fun _ =>
    run_of_shown (unshownMarker?_eq_none_iff.mpr fun _ => hmarker)
  unfold Phrasebook.Generator.runDocument
  rw [hkeyCase]
  simp only [hrun, Phrasebook.Generator.keyCaseFailure_none]
  rfl

/-- A class is made only if the marker can be shown where it has to be. -/
theorem unshownMarker?_of_success
    (h : (g.toGenerator.run b limits).1 = .success code warnings metadata) :
    g.unshownMarker? b limits.output = none := by
  unfold Phrasebook.Generator.run at h
  cases htry : g.toGenerator.tryGenerate b limits with
  | error fault =>
    rw [htry] at h
    cases h
  | ok made =>
    obtain ⟨_, -, hrest⟩ := Except.bind_eq_ok_iff.mp htry
    obtain ⟨_, hgenerate, -⟩ := Except.bind_eq_ok_iff.mp hrest
    cases hmarker : g.unshownMarker? b limits.output with
    | none => rfl
    | some cause =>
      simp only [toGenerator, hmarker] at hgenerate
      obtain ⟨_, -, hfault⟩ := Except.bind_eq_ok_iff.mp hgenerate
      cases hfault

theorem runDocument_of_success (h : g.toGenerator.runDocument document limits =
    .ok (.success code warnings metadata, notices)) :
    g.toGenerator.runDocument document = .ok (.success code warnings metadata, notices) := by
  unfold Phrasebook.Generator.runDocument at h ⊢
  split at h
  · obtain ⟨_, -, hfailure⟩ := Except.map_eq_ok_iff.mp h
    cases hfailure
  · split at h
    · cases h
    · simp only at h ⊢
      split at h
      · cases h
      · rename_i book _
        have hresult := congrArg Prod.fst (Except.ok.inj h)
        rw [← run_of_shown (unshownMarker?_of_success hresult)]
        exact h

end Dart.Generator

/-- Without a value for it in the custom section, the marker is a text. -/
theorem Dart.Options.exists_missingMarker {members : Json.Fields} {options : Dart.Options}
    {language : String} {given : String → Option Json}
    (hmembers : ∀ key, members.get? key = (given key).or (inCustom? (defaultsOf language) key))
    (hgiven : given "missing_marker" = none)
    (h : Dart.Options.ofCustom (.value (.obj members)) = .ok options) :
    ∃ text, options.missingMarker = .str text := by
  obtain ⟨-, -, -, hmarker, -⟩ := gives_of_defaults language hmembers
  simp only [Dart.Options.ofCustom, Dart.Options.customFields] at h
  split at h
  · cases h
    rcases hmarker with hmarker | hmarker
    · exact ⟨_, by rw [hmarker, hgiven]; rfl⟩
    · exact ⟨_, by rw [hmarker, hgiven]; rfl⟩
  · cases h

namespace Registry

/-- A class that is made within limits is the one that is made without. -/
theorem generate_of_success {r : Registry} {e : Entry} {store : Store} {document : Json}
    {language code : String} {config : Config} {limits : Limits} {warnings : List Warning}
    {metadata : Metadata} {notices : List Notice} (hentry : r.entry language = .ok e)
    (hdart : e.generator = dartClass) (h : r.generate store document language config limits =
      .ok (.success code warnings metadata, notices)) :
    r.generate store document language config =
      .ok (.success code warnings metadata, notices) := by
  obtain ⟨g, hcreate, hrun⟩ := Except.bind_eq_ok_iff.mp h
  obtain ⟨e', he', hrest⟩ := Except.bind_eq_ok_iff.mp (Except.mapError_eq_ok_iff.mp hcreate)
  obtain rfl : e' = e := Except.ok.inj (he'.symm.trans hentry)
  obtain ⟨s, -, hmade⟩ := Except.bind_eq_ok_iff.mp hrest
  rw [Except.mapError_eq_ok_iff, hdart, create_dartClass] at hmade
  obtain ⟨options, -, rfl⟩ := Except.map_eq_ok_iff.mp hmade
  have hsame := Dart.Generator.runDocument_of_success (Except.mapError_eq_ok_iff.mp hrun)
  exact Except.bind_eq_ok_iff.mpr ⟨_, hcreate, Except.mapError_eq_ok_iff.mpr hsame⟩

/-- The settings that overrides make without a marker generate the same within a limit for what is
put out as without. -/
theorem generate_of_overrides {store : Store} {language : String} {overrides : Json.Fields}
    {s : Settings} (hlanguage : builtin.isSupported language) (hoverrides : IsLayer overrides)
    (hmarker : given? overrides "missing_marker" = none)
    (hs : load store language (.obj overrides) .null = .ok s) (document : Json)
    (limit : Option Json.Limit) :
    builtin.generate store document language (.settings s) { output := limit } =
      builtin.generate store document language (.settings s) := by
  obtain ⟨s', members, hs', -, hcustom, hmembers⟩ := load_overrides language hoverrides
  obtain rfl : s' = s := Except.ok.inj (hs'.symm.trans hs)
  rw [generate, generate, create_of_isSupported hlanguage, settingsFor]
  simp only [Except.bind, create_dartClass, hcustom]
  cases hoptions : Dart.Options.ofCustom (.value (.obj members)) with
  | error fault => rfl
  | ok options =>
    obtain ⟨text, htext⟩ := Dart.Options.exists_missingMarker hmembers hmarker hoptions
    have hrun : (⟨s', options⟩ : Dart.Generator).toGenerator.runDocument document
        { output := limit } = _ :=
      Dart.Generator.runDocument_of_shown (Json.unshown?_none _) (htext ▸ rfl) document
    simp only [Except.map, Except.mapError, bind, Except.bind, hrun]

end Registry

end Phrasebook
