-- SUMMARY: A run for a class exits with zero or one, unless a fault escapes or a print is refused.
import Phrasebook.Proofs.CommandLine.FlagOverrides
import Phrasebook.Proofs.CommandLine.Printing
import Phrasebook.Proofs.CommandLine.Stages
import Phrasebook.Proofs.Generation.Spelling
import Phrasebook.Proofs.Generation.Steps
import Phrasebook.Proofs.Json.Surrogates
import Phrasebook.Proofs.Loading.Escapes
import Phrasebook.Proofs.Loading.Shape
import Phrasebook.Proofs.Settings.Escapes

/-!
# Escaping faults

A run that generates a class reports what goes wrong and exits with one, but for
some faults of its parts, which it lets through. They escape from one stage after
the other, so a run exits unless one of its stages meets such a fault or the
console refuses what is printed. A settings file gives values of any kind: no
value stops merging but that of the custom section, none stops validation but
those of the class name and the case style, and none stops the delivery but that
of the output file.
-/

namespace Phrasebook.CommandLine

open Registry

variable {α β : Type} {console : Console} {world : Loading.World} {store : Store} {language stdin : String}
  {document : Json.Fields} {settings : Settings} {r : Registry}

/-! ## Endings -/

theorem escaping_ok (a : α) : ¬ Escaping (.ok a : Except Ending α) := by
  rintro ⟨ending, h, -⟩
  cases h

theorem escaping_error_iff {ending : Ending} :
    Escaping (.error ending : Except Ending α) ↔ ending.IsEscape := by
  simp [Escaping]

theorem escaping_report (prints : List Print) (store : Store) :
    ¬ Escaping (.error (.report prints store) : Except Ending α) :=
  escaping_error_iff.not.mpr id

theorem escaping_escape (fault : Escape) (store : Store) :
    Escaping (.error (.escape fault store) : Except Ending α) :=
  escaping_error_iff.mpr trivial

/-- A fault escapes from two stages if it does from the first, or from the second when the first
goes on. -/
theorem escaping_bind_iff {x : Except Ending α} {f : α → Except Ending β} :
    Escaping (x.bind f) ↔ Escaping x ∨ ∃ a, x = .ok a ∧ Escaping (f a) := by
  cases x <;> simp [Escaping, Except.bind]

theorem escaping_mapError_iff {ε : Type} {x : Except ε α} {f : ε → Ending} :
    Escaping (x.mapError f) ↔ ∃ fault, x = .error fault ∧ (f fault).IsEscape := by
  cases x <;> simp [Escaping, Except.mapError]

theorem isEscape_ofLoading_iff {fault : Loading.Fault} :
    (Ending.ofLoading store fault).IsEscape ↔ fault.Escapes := by
  constructor
  · intro h
    cases fault <;> first | exact .badPath | exact .splitUrl | exact .excess _ | cases h
  · rintro (_ | _ | _) <;> trivial

theorem isEscape_ofSettings_iff {heading : String} {fault : Settings.Fault} :
    (Ending.ofSettings store heading fault).IsEscape ↔ fault.Escapes := by
  constructor
  · intro h
    cases fault <;>
      first | exact .encoding _ | exact .badPath _ _ | exact .excess _ | exact .misuse _ | cases h
  · rintro (_ | _ | _ | _) <;> trivial

/-! ## Languages -/

theorem escaping_checkLanguage_iff {name : Option String} :
    Escaping (checkLanguage r store name) ↔ name = none := by
  unfold checkLanguage
  split
  · exact iff_of_true (escaping_escape _ _) rfl
  · refine iff_of_false ?_ (by simp)
    split
    · exact escaping_ok _
    · exact escaping_report _ _

theorem not_escaping_showLanguages : ¬ Escaping (showLanguages r store) := by
  unfold showLanguages
  cases languagesReport r with
  | ok prints => exact escaping_ok _
  | error fault => exact escaping_report _ _

theorem not_escaping_describeLanguage : ¬ Escaping (describeLanguage r store language) := by
  unfold describeLanguage
  split
  · exact escaping_report _ _
  · split
    · exact escaping_report _ _
    · exact escaping_ok _

namespace GenerateRequest

variable {q : GenerateRequest}

/-! ## What escapes -/

/-- The sources that are asked for. -/
def sourcesOf (q : GenerateRequest) (stdin : String) : Loading.Sources where
  file := q.file
  url := q.url
  stream := if q.stdin then some stdin else none

/-- A text that a run for a class reads: that of the document, or that of the settings file. -/
inductive Reads (q : GenerateRequest) (world : Loading.World) (stdin : String) : String → Prop
  | document {text : String} (h : Loading.HasText world (q.sourcesOf stdin) text) :
      Reads q world stdin text
  | settings {file text : String} (hconfig : q.config = some file)
      (htext : Loading.fileText world.store (Path.ofString file) = .ok text) :
      Reads q world stdin text

/-- The document is loaded, in a language that is known. -/
structure Loads (q : GenerateRequest) (world : Loading.World) (stdin language : String)
    (document : Json.Fields) : Prop where
  asked : q.language = some language
  supported : builtin.isSupported language
  loaded : (q.document world stdin).1 = .ok document

/-- A settings file gives a value, and no flag gives another one in its place. -/
structure GivesAlone (file : Json.Fields) (name : String) (flag : Option String) (v : Json) :
    Prop where
  not_flag : ¬ isGiven flag
  value : file.get? name = some v

/-- A value of a settings file that cannot be worked with, in place of which no flag gives another
one: a custom section that cannot be merged, a class name that is no text, or a case style that is a
list or an object. -/
inductive ValueEscapes (q : GenerateRequest) (file : Json.Fields) : Prop
  | custom (h : Settings.MergeEscapes file q.overrides)
  | className {v : Json} (h : GivesAlone file "class_name" q.className v) (hkind : v.kind ≠ .str)
  | keyCase {v : Json} (h : GivesAlone file "key_case" q.keyCase v)
      (hkind : v.kind = .arr ∨ v.kind = .obj)

/-- A value that counts as an output file but is no path. -/
def IsNoPath (v : Json) : Prop :=
  v.truthy ∧ ∀ file, v = .str file → Store.HasNul (Path.ofString file)

/-- The ways in which a fault escapes from a run for a class: the flag for the language has lost its
value, the document or the settings file cannot be got at all, a value of the settings file cannot
be worked with, or a class that has been made is to be written to what is no path. -/
inductive Escapes (q : GenerateRequest) (world : Loading.World) (stdin : String) : Prop
  | language (h : q.language = none)
  | source {language : String} (hlanguage : q.language = some language)
      (hsupported : builtin.isSupported language) (h : (q.sourcesOf stdin).Escapes world)
  | settingsFile {language file : String} {document : Json.Fields}
      (hloads : q.Loads world stdin language document) (hconfig : q.config = some file)
      (hne : file ≠ "") (h : Settings.FileEscapes world.store (Path.ofString file))
  | value {language : String} {document file : Json.Fields}
      (hloads : q.Loads world stdin language document)
      (hfile : Settings.fileFields world.store q.settingsFile = .ok file)
      (h : q.ValueEscapes file)
  | output {language code : String} {document : Json.Fields} {settings : Settings}
      {warnings : List Warning} {metadata : Metadata}
      (hloads : q.Loads world stdin language document)
      (hsettings : q.settings world.store language = .ok settings)
      (hmake : make builtin world.store language document settings =
        .ok (.success code warnings metadata))
      (h : IsNoPath settings.outputFile)

/-! ## Documents -/

theorem escaping_document_iff :
    Escaping (q.document world stdin).1 ↔ (q.sourcesOf stdin).Escapes world := by
  have hdocument : (q.document world stdin).1 =
      ((Loading.load world (q.sourcesOf stdin)).1.map Loading.Loaded.fields).mapError
        (Ending.ofLoading world.store) := rfl
  have hmap : ∀ x : Except Loading.Fault Loading.Loaded, ∀ fault,
      x.map Loading.Loaded.fields = .error fault ↔ x = .error fault := by
    intro x fault
    cases x <;> simp [Except.map]
  simp only [hdocument, escaping_mapError_iff, hmap, isEscape_ofLoading_iff,
    Loading.load_escapes_iff]

/-! ## Settings -/

theorem not_hasExtra_overrides (q : GenerateRequest) : ¬ Settings.HasExtra q.overrides := by
  rintro ⟨key, hmem, hkey⟩
  have hnone := q.beside?_overrides key
  rw [Settings.beside?, hkey] at hnone
  exact Json.Fields.get?_eq_none_iff.mp hnone hmem

/-- Of a flag, a file and a text that is there from the start, only the file can give what is no
text. -/
theorem chosen_iff {P : Json → Prop} {file : Json.Fields} {name initial : String}
    {flag : Option String} (htext : ∀ s, ¬ P (.str s)) :
    P (((if isGiven flag then some (.str (flag.getD "")) else none).or (file.get? name)).getD
      (.str initial)) ↔ ∃ v, GivesAlone file name flag v ∧ P v := by
  by_cases hflag : isGiven flag
  · refine iff_of_false (by simpa [hflag] using htext _) ?_
    rintro ⟨v, h, -⟩
    exact h.not_flag hflag
  · rw [if_neg hflag, Option.none_or]
    cases hvalue : file.get? name with
    | none =>
      refine iff_of_false (htext _) ?_
      rintro ⟨v, h, -⟩
      exact absurd (hvalue.symm.trans h.value) (by simp)
    | some v =>
      constructor
      · intro hv
        exact ⟨v, ⟨hflag, hvalue⟩, hv⟩
      · rintro ⟨w, h, hw⟩
        cases hvalue.symm.trans h.value
        exact hw

/-- A field of every language is what the flags or else the file give for it. Without either it is
what it is from the start: the defaults of the language change nothing. -/
theorem plainFields_of_flags {file : Json.Fields} (hfile : file.keys.Nodup)
    (h : Settings.ofLayers language file q.overrides = .ok settings) :
    settings.plainFields = ({} : Settings).plainFields.map fun f =>
      (f.1, ((q.overrides.get? f.1).or (file.get? f.1)).getD f.2) := by
  rw [Settings.plainFields_ofLayers language hfile q.isLayer_overrides h]
  refine List.map_congr_left fun f hf => congrArg (Prod.mk f.1) ?_
  rw [← Option.or_assoc, Settings.getD_or_defaultsOf language hf]

/-- Validation cannot judge the settings exactly if the file alone gives a class name or a case style
of a kind that it cannot work with. -/
theorem validate_ofLayers_eq_error_iff {file : Json.Fields} (hfile : file.keys.Nodup)
    (h : Settings.ofLayers language file q.overrides = .ok settings) :
    (∃ cause, settings.validate = .error cause) ↔
      (∃ v, GivesAlone file "class_name" q.className v ∧ v.kind ≠ .str) ∨
        ∃ v, GivesAlone file "key_case" q.keyCase v ∧ (v.kind = .arr ∨ v.kind = .obj) := by
  have hplain := plainFields_of_flags hfile h
  simp only [Settings.plainFields, List.map_cons, List.cons.injEq, Prod.mk.injEq, true_and] at hplain
  obtain ⟨-, hclass, -, hcase, -⟩ := hplain
  rw [get?_overrides_className] at hclass
  rw [get?_overrides_keyCase] at hcase
  rw [Settings.validate_eq_error_iff, hclass, hcase,
    chosen_iff (P := fun v => v.kind ≠ .str) (by simp [Json.kind]),
    chosen_iff (P := fun v => v.kind = .arr ∨ v.kind = .obj) (by simp [Json.kind])]

theorem escaping_checkSettings_iff :
    Escaping (checkSettings store settings) ↔ ∃ cause, settings.validate = .error cause := by
  unfold checkSettings
  split
  · rename_i cause hvalidate
    exact iff_of_true (escaping_escape _ _) ⟨cause, hvalidate⟩
  · rename_i hvalidate
    exact iff_of_false (escaping_ok _) (by simp [hvalidate])
  · rename_i hvalidate
    exact iff_of_false (escaping_report _ _) (by simp [hvalidate])

theorem fileFields_escapes_iff :
    (∃ fault, Settings.fileFields store q.settingsFile = .error fault ∧ fault.Escapes) ↔
      ∃ file, q.config = some file ∧ file ≠ "" ∧
        Settings.FileEscapes store (Path.ofString file) := by
  cases hconfig : q.config with
  | none =>
    have hnull : q.settingsFile = .null := by simp [settingsFile, hconfig]
    simp [hnull, Settings.fileFields_null]
  | some file =>
    have hstr : q.settingsFile = .str file := by simp [settingsFile, hconfig]
    by_cases hne : file = ""
    · simp [hstr, hne, Settings.fileFields_empty]
    · simp [hstr, Settings.fileFields_str hne, Settings.readFile_escapes_iff, hne]

/-- A value of the file escapes from merging, or else from validation. -/
theorem valueEscapes_iff {file : Json.Fields} {value : Json}
    (hfile : Settings.fileFields store value = .ok file) :
    Settings.MergeEscapes file q.overrides ∨
        (∃ s, Settings.load store language (.obj q.overrides) value = .ok s ∧
          ∃ cause, s.validate = .error cause) ↔
      q.ValueEscapes file := by
  have hnodup := Settings.nodup_keys_fileFields hfile
  have hmerge : (∃ cause, Settings.ofLayers language file q.overrides = .error cause) ↔
      Settings.MergeEscapes file q.overrides :=
    Settings.ofLayers_eq_error_iff language hnodup q.isLayer_overrides q.not_hasExtra_overrides
  rw [Settings.load_eq_bind, hfile]
  simp only [Except.bind, Except.mapError_eq_ok_iff, ← hmerge]
  cases hlayers : Settings.ofLayers language file q.overrides with
  | error cause =>
    exact iff_of_true (.inl ⟨cause, rfl⟩) (.custom (hmerge.mp ⟨cause, hlayers⟩))
  | ok s =>
    have hmerged : ¬ Settings.MergeEscapes file q.overrides := by
      rw [← hmerge, hlayers]
      simp
    simp only [reduceCtorEq, exists_false, false_or, Except.ok.injEq, exists_eq_left',
      validate_ofLayers_eq_error_iff hnodup hlayers]
    constructor
    · rintro (⟨v, hgives, hkind⟩ | ⟨v, hgives, hkind⟩)
      · exact .className hgives hkind
      · exact .keyCase hgives hkind
    · rintro (h | ⟨hgives, hkind⟩ | ⟨hgives, hkind⟩)
      · exact absurd h hmerged
      · exact .inl ⟨_, hgives, hkind⟩
      · exact .inr ⟨_, hgives, hkind⟩

/-- The settings escape over their file or over one of the values in it. -/
theorem escaping_settings_iff : Escaping (q.settings store language) ↔
    (∃ file, q.config = some file ∧ file ≠ "" ∧
      Settings.FileEscapes store (Path.ofString file)) ∨
      ∃ file, Settings.fileFields store q.settingsFile = .ok file ∧ q.ValueEscapes file := by
  have hload : q.settings store language =
      ((Settings.load store language (.obj q.overrides) q.settingsFile).mapError
        (Ending.ofSettings store "Configuration error: ")).bind (checkSettings store) := rfl
  simp only [hload, escaping_bind_iff, escaping_mapError_iff, isEscape_ofSettings_iff,
    Except.mapError_eq_ok_iff, escaping_checkSettings_iff,
    Settings.load_escapes_iff language q.isLayer_overrides q.not_hasExtra_overrides,
    fileFields_escapes_iff, or_assoc]
  -- What is left is about a file that has been read, and only then is there something to validate.
  refine or_congr_right ?_
  cases hfile : Settings.fileFields store q.settingsFile with
  | error fault => simp [Settings.load_eq_bind, hfile, Except.bind]
  | ok file =>
    simp only [Except.ok.injEq, exists_eq_left', valueEscapes_iff hfile]

/-! ## Making and delivering -/

/-- A Dart generator with a text for its class name has an allocator, so it comes to a result. -/
theorem runDocument_ne_error {g : Dart.Generator} {className : String} {cause : Misuse}
    (h : g.settings.className = .str className) (document : Json) :
    g.toGenerator.runDocument document limits ≠ .error cause := by
  have hcase : limits.keyCase = none := rfl
  unfold Generator.runDocument
  rw [hcase]
  split
  · simp [Except.map]
  · simp only [names_toGenerator h]
    split <;> simp

/-- With a text for the class name, there is no misuse in making a class: bad options are refused. -/
theorem generate_ne_misuse {className : String} {cause : Misuse}
    (hsupported : builtin.isSupported language) (hclass : settings.className = .str className) :
    builtin.generate store (.obj document) language (.settings settings) limits ≠
      .error (.misuse cause) := by
  intro hgenerate
  rcases Except.bind_eq_error_iff.mp hgenerate with hcreate | ⟨g, hcreate, hrun⟩
  · obtain ⟨fault, -, hfault⟩ := Except.mapError_eq_error_iff.mp hcreate
    cases hfault
  · rw [create_of_isSupported hsupported, settingsFor, Except.bind, create_dartClass,
      Except.mapError_eq_ok_iff, Except.mapError_eq_ok_iff] at hcreate
    obtain ⟨options, -, rfl⟩ := Except.map_eq_ok_iff.mp hcreate
    obtain ⟨_, herror, -⟩ := Except.mapError_eq_error_iff.mp hrun
    exact runDocument_ne_error hclass _ herror

/-- Settings without problems have a text for the class name. -/
theorem exists_className (hvalid : settings.validate = .ok []) :
    ∃ className, settings.className = .str className := by
  have hkind : settings.className.kind = .str := by
    by_contra hkind
    obtain ⟨cause, hcause⟩ := Settings.validate_eq_error_iff.mpr (.inl hkind)
    rw [hvalid] at hcause
    cases hcause
  cases hclass : settings.className with
  | str className => exact ⟨className, rfl⟩
  | _ => simp [hclass, Json.kind] at hkind

theorem not_escaping_make (hsupported : builtin.isSupported language)
    (hvalid : settings.validate = .ok []) :
    ¬ Escaping (make builtin store language document settings) := by
  obtain ⟨className, hclass⟩ := exists_className hvalid
  unfold make
  split
  · exact escaping_report _ _
  · rename_i hgenerate
    exact absurd hgenerate (generate_ne_misuse hsupported hclass)
  · exact escaping_ok _

theorem escaping_writeClass_iff {path : Path} {code : String} :
    Escaping (writeClass store language path code) ↔ Store.HasNul path := by
  have hwrite : store.write path (Text.Utf8.encode code.toList) = .error .nulCharacter ↔
      Store.HasNul path := Store.write_eq_nulCharacter_iff
  rw [← hwrite]
  unfold writeClass
  cases store.write path (Text.Utf8.encode code.toList) with
  | ok store' => exact iff_of_false (escaping_ok _) (by simp)
  | error fault => cases fault <;> simp [escaping_error_iff, Ending.IsEscape]

/-- A class goes to any text that holds no NUL character, or to the output if no file is set. -/
theorem escaping_deliver_iff {code : String} :
    Escaping (deliver console store language settings code) ↔ IsNoPath settings.outputFile := by
  unfold deliver IsNoPath
  cases htruthy : settings.outputFile.truthy with
  | false =>
    refine iff_of_false ?_ (by simp)
    rw [if_neg Bool.false_ne_true]
    split <;> exact escaping_ok _
  | true =>
    cases settings.outputFile with
    | str file => simp [escaping_writeClass_iff]
    | _ => exact iff_of_true (escaping_escape _ _) (by simp)

theorem escaping_conclude_iff {generation : Generation} :
    Escaping (q.conclude console store language settings generation) ↔
      (∃ code warnings metadata, generation = .success code warnings metadata) ∧
        IsNoPath settings.outputFile := by
  cases generation with
  | failure cause => exact iff_of_false (escaping_report _ _) (by simp)
  | success code warnings metadata =>
    refine (escaping_bind_iff.trans (or_iff_left ?_)).trans ?_
    · rintro ⟨delivered, -, h⟩
      exact escaping_ok _ h
    · simp [escaping_deliver_iff]

/-! ## Runs -/

theorem not_escaping_of_not_wantsClass (h : ¬ q.WantsClass) :
    ¬ Escaping (q.run r console world stdin).1 := by
  unfold run
  split
  · exact not_escaping_showLanguages
  · rename_i hlist
    split
    · exact not_escaping_describeLanguage
    · rename_i hinfo
      split
      · exact escaping_report _ _
      · rename_i hsource
        exact absurd ⟨by simpa using hlist, hinfo, by simpa using hsource⟩ h

/-- A fault escapes from a run exactly if a class is asked for and one of the stages lets it out. -/
theorem escaping_run_iff :
    Escaping (q.run builtin console world stdin).1 ↔ q.WantsClass ∧ q.Escapes world stdin := by
  by_cases hwants : q.WantsClass
  swap
  · exact iff_of_false (not_escaping_of_not_wantsClass hwants) fun h => hwants h.1
  rw [run_fst hwants, and_iff_right hwants]
  simp only [generate_fst, escaping_bind_iff, escaping_checkLanguage_iff, checkLanguage_eq_ok_iff,
    escaping_document_iff, escaping_settings_iff, escaping_conclude_iff]
  constructor
  · -- The first stage that lets a fault out: the language, the document, the settings, the delivery.
    rintro (h | ⟨language, ⟨hlanguage, hsupported⟩, h | ⟨document, hdocument, h⟩⟩)
    · exact .language h
    · exact .source hlanguage hsupported h
    · have hloads : q.Loads world stdin language document := ⟨hlanguage, hsupported, hdocument⟩
      rcases h with (⟨file, hconfig, hne, h⟩ | ⟨file, hfile, h⟩) | ⟨s, hsettings, h⟩
      · exact .settingsFile hloads hconfig hne h
      · exact .value hloads hfile h
      · rcases h with h | ⟨generation, hmake, ⟨code, warnings, metadata, rfl⟩, h⟩
        · exact absurd h (not_escaping_make hsupported (settings_eq_ok_iff.mp hsettings).2)
        · exact .output hloads hsettings hmake h
  · intro h
    cases h with
    | language h => exact .inl h
    | source hlanguage hsupported h => exact .inr ⟨_, ⟨hlanguage, hsupported⟩, .inl h⟩
    | settingsFile hloads hconfig hne h =>
      exact .inr ⟨_, ⟨hloads.asked, hloads.supported⟩, .inr ⟨_, hloads.loaded,
        .inl (.inl ⟨_, hconfig, hne, h⟩)⟩⟩
    | value hloads hfile h =>
      exact .inr ⟨_, ⟨hloads.asked, hloads.supported⟩, .inr ⟨_, hloads.loaded,
        .inl (.inr ⟨_, hfile, h⟩)⟩⟩
    | output hloads hsettings hmake h =>
      exact .inr ⟨_, ⟨hloads.asked, hloads.supported⟩, .inr ⟨_, hloads.loaded,
        .inr ⟨_, hsettings, .inr ⟨_, hmake, ⟨_, _, _, rfl⟩, h⟩⟩⟩⟩

variable {line : List String} {request : Request}

/-- A document of one text. -/
def documentText : String :=
  "\x7b\"default_locale\":\"en\",\"locales\":\x7b\"en\":\x7b\"hello\":\"x\"\x7d\x7d\x7d"

/-- A world with that document, and a settings file. -/
def worldWith (settings : String) : Loading.World where
  store :=
    { nodes :=
        [(["d.json"], .file (Text.Utf8.encode documentText.toList)),
         (["c.json"], .file (Text.Utf8.encode settings.toList))] }

theorem fileText_document (settings : String) :
    Loading.fileText (worldWith settings).store (Path.ofString "d.json") = .ok documentText := by
  have hread : (worldWith settings).store.read (Path.ofString "d.json") =
      .ok (Text.Utf8.encode documentText.toList) := by rfl
  have hdecode : Text.Utf8.decode (Text.Utf8.encode documentText.toList) =
      .ok documentText.toList := by decide +kernel
  have hunify : String.ofList (Text.Utf8.unifyBreaks documentText.toList) = documentText := by
    decide +kernel
  exact (Loading.fileText_of_read hread hdecode).trans (congrArg _ hunify)

theorem loads_worldWith (settings : String) (className : Option String) :
    Loads { file := some "d.json", config := some "c.json", className } (worldWith settings) ""
      "dart" [("default_locale", .str "en"),
        ("locales", .obj [("en", .obj [("hello", .str "x")])])] := by
  have hparse : Json.parse documentText = .ok (.obj [("default_locale", .str "en"),
      ("locales", .obj [("en", .obj [("hello", .str "x")])])]) := by
    simp only [Json.parse, documentText, String.reduceToList]
    rfl
  refine ⟨rfl, by decide +kernel, ?_⟩
  rw [document_of_file rfl rfl rfl, Except.mapError_eq_ok_iff,
    Loading.load_file_fst (fileText_document settings) hparse, Loading.checkShape_eq_ok_iff]
  exact ⟨rfl, ⟨_, rfl⟩, _, rfl⟩

theorem fileFields_worldWith {settings : String} {fields : Json.Fields}
    (hdecode : Text.Utf8.decode (Text.Utf8.encode settings.toList) = .ok settings.toList)
    (hunify : String.ofList (Text.Utf8.unifyBreaks settings.toList) = settings)
    (hparse : Json.parse settings = .ok (.obj fields)) :
    Settings.fileFields (worldWith settings).store (.str "c.json") = .ok fields := by
  have hread : (worldWith settings).store.read (Path.ofString "c.json") =
      .ok (Text.Utf8.encode settings.toList) := by rfl
  rw [Settings.fileFields_str (by decide)]
  exact Settings.readFile_eq_ok (Store.exists?_of_read hread) (by decide +kernel) hread hdecode
    (hunify.symm ▸ hparse)

/-- What is read of such a world writes characters if its settings do. -/
theorem writesCharacters_worldWith {settings : String} {className : Option String}
    (hdecode : Text.Utf8.decode (Text.Utf8.encode settings.toList) = .ok settings.toList)
    (hunify : String.ofList (Text.Utf8.unifyBreaks settings.toList) = settings)
    (hwrites : Json.WritesCharacters settings) (text : String)
    (h : Reads { file := some "d.json", config := some "c.json", className } (worldWith settings) ""
      text) : Json.WritesCharacters text := by
  cases h with
  | document h =>
    cases h with
    | file htext =>
      cases (fileText_document settings).symm.trans htext
      decide
  | settings hconfig htext =>
    cases hconfig
    have hread : (worldWith settings).store.read (Path.ofString "c.json") =
        .ok (Text.Utf8.encode settings.toList) := by rfl
    rw [Loading.fileText_of_read hread hdecode, hunify] at htext
    cases htext
    exact hwrites

end GenerateRequest

end Phrasebook.CommandLine
