-- SUMMARY: The steps of a generation: from a configuration, and from a document to a class.
import Mathlib.Data.Option.Basic
import Phrasebook.Generation

/-!
# Steps of generation

A configuration makes a generator, a document makes a book once the case style
is known, and a book whose names can stand in the class makes a class. Each step
either hands on what it makes or is the last one.
-/

namespace Phrasebook

open Naming

namespace Registry

variable {store : Store} {config : Config} {g : Dart.Generator} {className ending : String}
  {style : Style} {document : Json} {b : Book}

/-! ## Configurations -/

/-- A configuration that makes a Dart generator, with texts for its class name and line ending. -/
structure Prepares (store : Store) (config : Config) (g : Dart.Generator) (className : String)
    (ending : String) : Prop where
  settings : settingsFor store "dart" config = .ok g.settings
  options : Dart.Options.ofCustom g.settings.custom = .ok g.options
  class_name : g.settings.className = .str className
  line_ending : g.settings.lineEnding = .str ending

theorem Prepares.create_builtin (h : Prepares store config g className ending) :
    builtin.create store "dart" config = .ok g.toGenerator := by
  have hentry : builtin.entry "dart" = .ok (makeEntry "dart" dartClass ["flutter"]) := by rfl
  have hlanguage : (makeEntry "dart" dartClass ["flutter"]).language = "dart" := by rfl
  have hmade : Dart.Generator.ofSettings g.settings = .ok g := by
    simp [Dart.Generator.ofSettings, h.options, bind, Except.bind, pure, Except.pure]
  have hcreate : dartClass.create g.settings = .ok g.toGenerator := by
    simp [dartClass, hmade, Except.map]
  unfold create
  rw [hentry]
  simp only [bind, Except.bind, hlanguage, h.settings]
  change (dartClass.create g.settings).mapError _ = _
  rw [hcreate]
  rfl

theorem accessorNamesOf_str (className : String) :
    Dart.accessorNamesOf (.str className) = .ok (Dart.accessorNamesFor className) := by
  unfold Dart.accessorNamesOf
  split
  · rfl
  · rename_i hempty
    have hclass : className = "" := by simpa [Json.truthy] using hempty
    simp [hclass, Dart.accessorNamesFor]

theorem names_toGenerator (h : g.settings.className = .str className) :
    g.toGenerator.names = .ok (some (Dart.accessorNamesFor className)) := by
  simp [Dart.Generator.toGenerator, Dart.Generator.names, h, accessorNamesOf_str, Except.map]

/-! ## From a document to a book -/

theorem Prepares.generate_eq (h : Prepares store config g className ending) (document : Json)
    (limits : Limits) : builtin.generate store document "dart" config limits =
      (g.toGenerator.runDocument document limits).mapError .misuse := by
  rw [generate, h.create_builtin]
  rfl

theorem Prepares.names_eq (h : Prepares store config g className ending) :
    g.toGenerator.names = .ok (some (Dart.accessorNamesFor className)) :=
  names_toGenerator h.class_name

theorem styleOf?_eq_none {keyCase : Json} (h : ∀ style : Style, keyCase ≠ .str style.word) :
    styleOf? keyCase = none := by
  unfold styleOf?
  split
  · rename_i word
    refine Option.eq_none_iff_forall_ne_some.mpr fun style hstyle => ?_
    exact h style (by rw [Style.eq_word_of_ofWord? hstyle])
  · rfl

theorem styleOf?_str_word (style : Style) : styleOf? (.str style.word) = some style := by
  simp [styleOf?]

/-- A case style that is not known is what the generation fails for, if it can be shown. -/
theorem Prepares.generate_of_keyCase (h : Prepares store config g className ending)
    (hstyle : ∀ style : Style, g.settings.keyCase ≠ .str style.word) (document : Json)
    (limits : Limits) : builtin.generate store document "dart" config limits =
      ((Generator.keyCaseFailure g.settings.keyCase limits.keyCase).map
        fun cause => (.failure cause, [])).mapError .misuse := by
  have hnone : styleOf? g.toGenerator.settings.keyCase = none := styleOf?_eq_none hstyle
  rw [h.generate_eq, Generator.runDocument, hnone]
  rfl

section KnownStyle

variable {limits : Limits} (h : Prepares store config g className ending)
  (hstyle : g.settings.keyCase = .str style.word)
include h hstyle

/-- A fault of the document is what the generation fails for. -/
theorem Prepares.generate_of_fault {fault : Document.Fault}
    (hconv : (Document.convert style (Dart.accessorNamesFor className) document).result =
      .error fault) :
    builtin.generate store document "dart" config limits = .ok (.failure (.document fault),
      (Document.convert style (Dart.accessorNamesFor className) document).notices) := by
  have hsome : styleOf? g.toGenerator.settings.keyCase = some style :=
    hstyle ▸ styleOf?_str_word style
  rw [h.generate_eq, Generator.runDocument, hsome, h.names_eq]
  simp only [Option.getD_some, hconv]
  rfl

/-- A generation goes on with the converted book. -/
theorem Prepares.generate_of_book
    (hconv : (Document.convert style (Dart.accessorNamesFor className) document).result = .ok b) :
    builtin.generate store document "dart" config limits = .ok ((g.toGenerator.run b limits).1,
      (Document.convert style (Dart.accessorNamesFor className) document).notices ++
        (g.toGenerator.run b limits).2) := by
  have hsome : styleOf? g.toGenerator.settings.keyCase = some style :=
    hstyle ▸ styleOf?_str_word style
  rw [h.generate_eq, Generator.runDocument, hsome, h.names_eq]
  simp only [Option.getD_some, hconv]
  rfl

end KnownStyle

end Registry

/-! ## From a book to a class -/

namespace Dart.Generator

variable {g : Generator} {className ending : String} {b : Book} {limits : Limits}
  (hclass : g.settings.className = .str className)
include hclass

theorem exists_review_eq (b : Book) : ∃ warnings, g.toGenerator.review b = .ok warnings := by
  simp [toGenerator, review, hclass]

variable (hnames : checkNames (.str className) b = .ok ())
include hnames

theorem generate_of_names : g.generate b = .ok (g.classSource b).text := by
  simp [generate, hclass, hnames, bind, Except.bind, pure, Except.pure]

/-- A book whose names pass the check makes a class, laid out, if its marker can be shown. -/
theorem exists_run_of_shown (hending : g.settings.lineEnding = .str ending)
    (hmarker : g.unshownMarker? b limits.output = none) :
    ∃ warnings, g.toGenerator.run b limits =
      (.success (Layout.formatString ending (g.classSource b).text) warnings
        (g.toGenerator.metadata b), []) := by
  obtain ⟨warnings, hreview⟩ := exists_review_eq hclass b
  refine ⟨warnings, ?_⟩
  have hcode : g.toGenerator.generate limits b = .ok (g.classSource b).text := by
    simp [toGenerator, hmarker, generate_of_names hclass hnames, Except.mapError]
  have hformat : Phrasebook.Generator.format g.toGenerator.settings (g.classSource b).text =
      .ok (Layout.formatString ending (g.classSource b).text) := by
    simp [toGenerator, Phrasebook.Generator.format, hending]
  simp only [Phrasebook.Generator.run, Phrasebook.Generator.tryGenerate, hreview, hcode, hformat,
    bind, Except.bind, Except.mapError, pure, Except.pure]

theorem exists_run_of_names (hending : g.settings.lineEnding = .str ending) :
    ∃ warnings, g.toGenerator.run b =
      (.success (Layout.formatString ending (g.classSource b).text) warnings
        (g.toGenerator.metadata b), []) :=
  exists_run_of_shown hclass hnames hending rfl

end Dart.Generator

namespace Registry

variable {store : Store} {config : Config} {g : Dart.Generator} {className ending : String}
  {b : Book} {limits : Limits}

theorem Prepares.run_of_shown (h : Prepares store config g className ending)
    (hnames : Dart.checkNames (.str className) b = .ok ())
    (hmarker : g.unshownMarker? b limits.output = none) :
    ∃ warnings, g.toGenerator.run b limits =
      (.success (Layout.formatString ending (g.classSource b).text) warnings
        (g.toGenerator.metadata b), []) :=
  Dart.Generator.exists_run_of_shown h.class_name hnames h.line_ending hmarker

theorem Prepares.run_of_names (h : Prepares store config g className ending)
    (hnames : Dart.checkNames (.str className) b = .ok ()) :
    ∃ warnings, g.toGenerator.run b =
      (.success (Layout.formatString ending (g.classSource b).text) warnings
        (g.toGenerator.metadata b), []) :=
  Dart.Generator.exists_run_of_names h.class_name hnames h.line_ending

/-- A name that does not pass the check is what the generation fails for. -/
theorem Prepares.run_of_fault (h : Prepares store config g className ending)
    {fault : Dart.NameFault} (hnames : Dart.checkNames (.str className) b = .error fault) :
    (g.toGenerator.run b limits).1 = .failure (.generation (.names fault)) := by
  obtain ⟨warnings, hreview⟩ := Dart.Generator.exists_review_eq h.class_name b
  have hcode : g.toGenerator.generate limits b = .error (.names fault) := by
    cases hmarker : g.unshownMarker? b limits.output <;>
      simp [Dart.Generator.toGenerator, Dart.Generator.generate, hmarker, h.class_name, hnames,
        bind, Except.bind, Except.mapError]
  simp only [Generator.run, Generator.tryGenerate, hreview, hcode, bind, Except.bind,
    Except.mapError]

/-- A marker that cannot be shown is what the generation fails for once the names have passed. -/
theorem Prepares.run_of_unshown (h : Prepares store config g className ending)
    {cause : Json.Unshown} (hnames : Dart.checkNames (.str className) b = .ok ())
    (hmarker : g.unshownMarker? b limits.output = some cause) :
    (g.toGenerator.run b limits).1 = .failure (.generation (.template (Dart.markerFault cause))) := by
  obtain ⟨warnings, hreview⟩ := Dart.Generator.exists_review_eq h.class_name b
  have hcode : g.toGenerator.generate limits b =
      .error (.template (Dart.markerFault cause)) := by
    simp [Dart.Generator.toGenerator, hmarker, h.class_name, hnames, bind, Except.bind,
      Except.mapError]
  simp only [Generator.run, Generator.tryGenerate, hreview, hcode, bind, Except.bind,
    Except.mapError]

end Registry

end Phrasebook
