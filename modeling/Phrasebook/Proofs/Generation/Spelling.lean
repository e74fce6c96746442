-- SUMMARY: A class does not depend on the name under which its language is asked for.
import Phrasebook.Generation
import Phrasebook.Proofs.Settings.Layering

/-!
# Spellings of a language

Only the language itself has default settings; its aliases have none. The
defaults say no more than what holds without them: every field has the same
initial value, and every option that the custom section leaves out does. So the
settings that are loaded under an alias make the same classes.
-/

namespace Phrasebook

open Settings

/-! ## Settings -/

namespace Settings

variable {language : String}

theorem defaultsOf_of_lower (hlower : Text.lower language = "dart") :
    defaultsOf language = defaultsOf "dart" := by
  have hdart : defaultsOf "dart" = (languageDefaults.lookup "dart").getD [] := rfl
  rw [hdart, defaultsOf, hlower]

theorem defaultsOf_of_ne (hlower : Text.lower language ≠ "dart") : defaultsOf language = [] := by
  have hne : (Text.lower language == "dart") = false := by simpa using hlower
  simp [defaultsOf, languageDefaults, List.lookup_cons, hne]

theorem defaultsOf_eq_or (language : String) :
    defaultsOf language = defaultsOf "dart" ∨ defaultsOf language = [] :=
  (eq_or_ne (Text.lower language) "dart").imp defaultsOf_of_lower defaultsOf_of_ne

/-- The fields that every language has are what the defaults have them. -/
theorem getD_defaultsOf (language : String) :
    ∀ f ∈ ({} : Settings).plainFields, ((defaultsOf language).get? f.1).getD f.2 = f.2 := by
  rcases defaultsOf_eq_or language with hdart | hnil
  · rw [hdart]
    simp only [plainFields, List.forall_mem_cons]
    exact ⟨rfl, rfl, rfl, rfl, rfl, by simp⟩
  · simp [hnil]

theorem getD_or_defaultsOf {f : String × Json} (language : String)
    (hf : f ∈ ({} : Settings).plainFields) (given : Option Json) :
    (given.or ((defaultsOf language).get? f.1)).getD f.2 = given.getD f.2 := by
  cases given with
  | none => exact getD_defaultsOf language f hf
  | some v => rfl

/-- What is loaded from overrides alone. -/
theorem load_overrides {store : Store} {overrides : Json.Fields} (language : String)
    (h : IsLayer overrides) :
    ∃ s members, load store language (.obj overrides) .null = .ok s ∧
      s.plainFields =
        ({} : Settings).plainFields.map (fun f => (f.1, (overrides.get? f.1).getD f.2)) ∧
      s.custom = .value (.obj members) ∧
      ∀ key, Json.Fields.get? members key =
        (given? overrides key).or (inCustom? (defaultsOf language) key) := by
  have hfields : fileFields store .null = .ok [] := rfl
  obtain ⟨s, members, hs, hplain, hcustom, hmembers⟩ :=
    load_of_fileFields language hfields isLayer_nil h
  refine ⟨s, members, hs, ?_, hcustom, ?_⟩
  · rw [hplain]
    exact List.map_congr_left fun f hf =>
      congrArg (Prod.mk f.1) (getD_or_defaultsOf language hf _)
  · intro key
    have hfile : beside? [] key = none := by simp [beside?]
    have hfile' : inCustom? [] key = none := rfl
    rw [hmembers, hfile, hfile', given?, Option.or_none, Option.none_or, Option.or_assoc]

variable {s s' : Settings}

/-- Settings with the same fields are the same but for their custom sections. -/
theorem eq_of_plainFields (h : s.plainFields = s'.plainFields) :
    s' = { s with custom := s'.custom } := by
  obtain ⟨outputFile, className, lineEnding, keyCase, addComments, custom⟩ := s
  simp only [plainFields, List.cons.injEq, Prod.mk.injEq, true_and, and_true] at h
  obtain ⟨rfl, rfl, rfl, rfl, rfl⟩ := h
  rfl

end Settings

/-! ## Options -/

namespace Dart.Options

variable {fields fields' : Json.Fields} {option name : String} {initial v : Json}
  {given : Option Json}

/-- Fields that give an option, or else leave it out or have its initial value. -/
def Gives (fields : Json.Fields) (option : String) (initial : Json) (given : Option Json) : Prop :=
  fields.get? option = given ∨ fields.get? option = given.or (some initial)

theorem gives_some_iff : Gives fields option initial (some v) ↔ fields.get? option = some v := by
  simp [Gives]

theorem gives_none_iff : Gives fields option initial none ↔
    fields.get? option = none ∨ fields.get? option = some initial := by
  simp [Gives]

theorem typeName_eq_of_gives (hname : isIdentifier name) (h : Gives fields option (.str name) given)
    (h' : Gives fields' option (.str name) given) :
    typeName fields option name = typeName fields' option name := by
  have hinitial : ∀ fields, Gives fields option (.str name) none →
      typeName fields option name = (name, []) := by
    intro fields h
    rcases gives_none_iff.mp h with h | h
    · simp only [typeName, h]
    · simp only [typeName, h, hname, if_true]
  cases given with
  | none => rw [hinitial fields h, hinitial fields' h']
  | some v => simp only [typeName, gives_some_iff.mp h, gives_some_iff.mp h']

theorem switch_eq_of_gives {b : Bool} (h : Gives fields option (.bool b) given)
    (h' : Gives fields' option (.bool b) given) : switch fields option b = switch fields' option b := by
  have hinitial : ∀ fields, Gives fields option (.bool b) none →
      switch fields option b = (b, []) := by
    intro fields h
    rcases gives_none_iff.mp h with h | h
    · simp only [switch, h]
    · simp only [switch, h]
  cases given with
  | none => rw [hinitial fields h, hinitial fields' h']
  | some v => simp only [switch, gives_some_iff.mp h, gives_some_iff.mp h']

theorem getD_eq_of_gives (h : Gives fields option initial given)
    (h' : Gives fields' option initial given) :
    (fields.get? option).getD initial = (fields'.get? option).getD initial := by
  have hgiven : ∀ fields, Gives fields option initial given →
      (fields.get? option).getD initial = given.getD initial := by
    intro fields h
    rcases h with h | h
    · rw [h]
    · rw [h]
      cases given <;> rfl
  rw [hgiven fields h, hgiven fields' h']

/-- What the default settings have for the options is what holds without them. -/
theorem gives_of_defaults {given : String → Option Json} (language : String)
    (h : ∀ key, fields.get? key = (given key).or (inCustom? (defaultsOf language) key)) :
    Gives fields "lookup_type" (.str "I18nLookup") (given "lookup_type") ∧
    Gives fields "custom_lookup_type" (.str "I18nLookup") (given "custom_lookup_type") ∧
    Gives fields "delegate_type" (.str "I18nDelegate") (given "delegate_type") ∧
    Gives fields "missing_marker" (.str Settings.missingMarker) (given "missing_marker") ∧
    Gives fields "context_accessor" (.bool true) (given "context_accessor") := by
  simp only [Gives, h]
  rcases defaultsOf_eq_or language with hdart | hnil
  · rw [hdart]
    exact ⟨.inr rfl, .inr rfl, .inr rfl, .inr rfl, .inr rfl⟩
  · have hnone : ∀ key, inCustom? (defaultsOf language) key = none := by
      intro key
      rw [hnil]
      rfl
    simp only [hnone, Option.or_none, true_or, and_self]

theorem ofCustom_eq_of_defaults {given : String → Option Json} {language language' : String}
    (h : ∀ key, fields.get? key = (given key).or (inCustom? (defaultsOf language) key))
    (h' : ∀ key, fields'.get? key = (given key).or (inCustom? (defaultsOf language') key)) :
    ofCustom (.value (.obj fields)) = ofCustom (.value (.obj fields')) := by
  obtain ⟨hlookup, hcustom, hdelegate, hmarker, haccessor⟩ := gives_of_defaults language h
  obtain ⟨hlookup', hcustom', hdelegate', hmarker', haccessor'⟩ := gives_of_defaults language' h'
  have hlookupName : isIdentifier "I18nLookup" := by decide
  have hdelegateName : isIdentifier "I18nDelegate" := by decide
  simp only [ofCustom, customFields, typeName_eq_of_gives hlookupName hlookup hlookup',
    typeName_eq_of_gives hlookupName hcustom hcustom',
    typeName_eq_of_gives hdelegateName hdelegate hdelegate', getD_eq_of_gives hmarker hmarker',
    switch_eq_of_gives haccessor haccessor']

end Dart.Options

/-! ## Generators -/

namespace Dart.Generator

/-- Once its options are read, the custom section does not matter. -/
theorem runDocument_eq_of_plainFields {s s' : Settings} (h : s.plainFields = s'.plainFields)
    (options : Options) (document : Json) :
    (⟨s, options⟩ : Dart.Generator).toGenerator.runDocument document =
      (⟨s', options⟩ : Dart.Generator).toGenerator.runDocument document := by
  rw [eq_of_plainFields h]
  rfl

end Dart.Generator

namespace Registry

variable {store : Store} {language : String}

/-- The one entry of the built-in registry. -/
def dartEntry : Entry :=
  makeEntry "dart" dartClass ["flutter"]

theorem entry_of_isSupported (h : builtin.isSupported language) :
    builtin.entry language = .ok dartEntry := by
  have hentries : builtin.entries = [("dart", dartEntry), ("flutter", dartEntry)] := by rfl
  have hfind : builtin.find? language = some dartEntry := by
    simp only [isSupported, find?, hentries, List.lookup_cons, List.lookup_nil] at h ⊢
    split
    · rfl
    · split
      · rfl
      · simp_all
  rw [entry, hfind]

/-- The generator of the one entry. -/
theorem create_of_isSupported {config : Config} (h : builtin.isSupported language) :
    builtin.create store language config =
      (settingsFor store "dart" config).bind fun s =>
        (dartClass.create s).mapError (.creation "dart") := by
  have hlanguage : dartEntry.language = "dart" := by rfl
  simp only [create, entry_of_isSupported h, bind, Except.bind, hlanguage]
  rfl

theorem create_dartClass (s : Settings) : dartClass.create s =
    (Dart.Options.ofCustom s.custom).map fun options =>
      (⟨s, options⟩ : Dart.Generator).toGenerator := by
  simp only [dartClass, Dart.Generator.ofSettings]
  cases Dart.Options.ofCustom s.custom <;> rfl

/-- The settings that overrides make under any name of the language make the same as the overrides
themselves, which are completed under its own name. -/
theorem generate_spelling {overrides : Json.Fields} {s : Settings}
    (hlanguage : builtin.isSupported language) (hoverrides : IsLayer overrides)
    (hs : load store language (.obj overrides) .null = .ok s) (document : Json) :
    builtin.generate store document language (.settings s) =
      builtin.generate store document "dart" (.value (.obj overrides)) := by
  obtain ⟨s₁, members, hs₁, hplain, hcustom, hmembers⟩ := load_overrides language hoverrides
  obtain ⟨s', members', hs', hplain', hcustom', hmembers'⟩ : ∃ s' members',
      load store "dart" (.obj overrides) .null = .ok s' ∧ _ := load_overrides "dart" hoverrides
  obtain rfl : s₁ = s := Except.ok.inj (hs₁.symm.trans hs)
  have hoptions : Dart.Options.ofCustom s₁.custom = Dart.Options.ofCustom s'.custom := by
    rw [hcustom, hcustom']
    exact Dart.Options.ofCustom_eq_of_defaults hmembers hmembers'
  have hsettings : settingsFor store "dart" (.value (.obj overrides)) = .ok s' := by
    simp [settingsFor, hs', Except.mapError]
  have hdart : builtin.isSupported "dart" := by rfl
  rw [generate, generate, create_of_isSupported hlanguage, create_of_isSupported hdart, hsettings,
    settingsFor]
  simp only [Except.bind, create_dartClass, hoptions]
  cases Dart.Options.ofCustom s'.custom with
  | error fault => rfl
  | ok options =>
    have hrun := Dart.Generator.runDocument_eq_of_plainFields (hplain.trans hplain'.symm) options
      document
    simp only [Except.map, Except.mapError, bind, Except.bind, hrun]

end Registry

end Phrasebook
