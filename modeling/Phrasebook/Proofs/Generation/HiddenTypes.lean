-- SUMMARY: Which types of its code a class hides by the accessors that are derived for its keys.
import Mathlib.Data.List.Basic
import Mathlib.Tactic.Common
import Phrasebook.Proofs.Dart.TypeNames
import Phrasebook.Proofs.Generation.DerivedAccessors
import Phrasebook.Proofs.Generation.Outcome

/-!
# Hidden types

Nothing between a document and its class compares accessors with the types that
the class refers to, so what is hidden is known from the keys alone. Types are
mostly named by a capital with lower case after it, and only Pascal case gives
accessors such names.
-/

namespace Phrasebook

open Naming

namespace Registry

variable {store : Store} {config : Config} {g : Dart.Generator} {className ending : String}
  {style : Style} {document : Json} {entries : List (String × Document.Entry)}
  {code : String} {warnings : List Warning} {metadata : Metadata} {notices : List Notice}

/-- A generation that succeeds has converted a book, and its code is the class for that book. -/
theorem Configures.exists_book (h : Configures store config g className style ending)
    (hok : builtin.generate store document "dart" config =
      .ok (.success code warnings metadata, notices)) :
    ∃ b, (Document.convert style (Dart.accessorNamesFor className) document).result = .ok b ∧
      code = Layout.formatString ending (g.classSource b).text := by
  obtain ⟨b, hpasses, hmarker⟩ := (h.prepares.succeeds_iff hok).mp rfl
  obtain ⟨warnings', hresult⟩ := h.prepares.result_of_shown hok hpasses hmarker
  obtain ⟨style', hstyle, hconv, -⟩ := hpasses
  rw [h.key_case, Json.str.injEq] at hstyle
  rw [Generation.success.injEq] at hresult
  exact ⟨b, Style.word_injective hstyle ▸ hconv, hresult.1⟩

theorem accessors_classSource (g : Dart.Generator) (b : Book) :
    (g.classSource b).accessors.map Dart.Accessor.name =
      b.defaultTable.phrases.map Phrase.accessor := by
  simp [Dart.Generator.classSource, Dart.Generator.accessors, Dart.Generator.accessor]

/-- Where a document gives no accessor names, a type is hidden exactly if a key is spelled as it and
nothing is put behind that. A type that ends in an underscore or a digit can also be hidden by a
name with something behind it. Only in Pascal case is a type hidden that is named by a capital with
lower case after it, as all types of the libraries are. -/
theorem hidden_types (hconfig : Configures store config g className style ending)
    (hhome : Document.homeEntries document = some entries)
    (hnot : ∀ e ∈ entries, e.2.accessor = none)
    (hok : builtin.generate store document "dart" config =
      .ok (.success code warnings metadata, notices)) :
    let keys := entries.map Prod.fst
    ∃ b, (Document.convert style (Dart.accessorNamesFor className) document).result = .ok b ∧
      let c := g.classSource b
      code = Layout.formatString ending c.text ∧
      c.accessors.map Dart.Accessor.name = Dart.derivedNames className style keys ∧
      (Dart.isIdentifier className → ∀ name ∈ c.typeNames, Dart.OccursIn name c.lines) ∧
      (∀ name, c.HidesType name → ∃ key ∈ keys, ∃ tail, Dart.IsTail tail ∧
        name = Dart.spelled className key style ++ tail ∧
        (tail = "" → Dart.IsLeft className name)) ∧
      (∀ name ∈ c.typeNames, Dart.EndsPlainly name → (c.HidesType name ↔
        Dart.IsLeft className name ∧ ∃ key ∈ keys, Dart.spelled className key style = name)) ∧
      (∀ name ∈ c.libraryTypes, c.HidesType name ↔
        name ≠ className ∧ ∃ key ∈ keys, Dart.spelled className key style = name) ∧
      (style ≠ .pascal → ∀ name, IsMixed name → ¬ c.HidesType name) ∧
      (style ≠ .pascal → ∀ name ∈ c.libraryTypes, ¬ c.HidesType name) := by
  intro keys
  obtain ⟨b, hconv, hcode⟩ := hconfig.exists_book hok
  refine ⟨b, hconv, ?_⟩
  intro c
  have hclassName : c.name = className := by
    simp [c, Dart.Generator.classSource, hconfig.class_name]
  have htypes : c.NamesTypes := Dart.Generator.namesTypes_classSource hconfig.options b
  have hnames : c.accessors.map Dart.Accessor.name = Dart.derivedNames className style keys := by
    rw [accessors_classSource, (defaultTable_accessors hnot hhome hconv).1]
  have hhides : ∀ name, c.HidesType name ↔
      name ∈ c.typeNames ∧ name ∈ Dart.derivedNames className style keys := by
    intro name
    rw [← hnames]
    exact ⟨fun h => ⟨h.is_type, h.is_accessor⟩, fun h => ⟨h.1, h.2⟩⟩
  have hplain : ∀ name ∈ c.typeNames, Dart.EndsPlainly name → (c.HidesType name ↔
      Dart.IsLeft className name ∧ ∃ key ∈ keys, Dart.spelled className key style = name) := by
    intro name htype hends
    rw [hhides, Dart.mem_derivedNames_iff hends]
    exact and_iff_right htype
  have hmixed : style ≠ .pascal → ∀ name, IsMixed name → ¬ c.HidesType name :=
    fun hstyle name hname hhidden =>
      Dart.not_isMixed_of_mem hstyle ((hhides name).mp hhidden).2 hname
  refine ⟨hcode, hnames, ?_, ?_, hplain, ?_, hmixed, ?_⟩
  · intro hclass
    exact Dart.ClassSource.occursIn_lines htypes (hclassName ▸ hclass)
  · intro name hhidden
    obtain ⟨key, hkey, tail, heq, htail, hleft⟩ :=
      Dart.exists_spelled_of_mem ((hhides name).mp hhidden).2
    exact ⟨key, hkey, tail, htail, heq, hleft⟩
  · intro name hlibrary
    obtain ⟨hends, -, hfree⟩ := Dart.ClassSource.libraryTypes_spelling name hlibrary
    rw [hplain name (List.mem_append_left _ hlibrary) hends]
    exact and_congr_left fun _ => ⟨fun hleft => hleft.not_class, fun hclass => ⟨hfree, hclass⟩⟩
  · intro hstyle name hlibrary
    exact hmixed hstyle name (Dart.ClassSource.libraryTypes_spelling name hlibrary).2.1

/-- In the default style a key `string` gets the name `string`, which hides nothing. -/
theorem hidden_types_of_string :
    let document : Json := .obj [("default_locale", .str "en"),
      ("locales", .obj [("en", .obj [("string", .str "x")])])]
    let entries : List (String × Document.Entry) := [("string", { text := "x" })]
    ∃ g code warnings metadata notices b, Configures {} (.value .null) g "I18n" .camel "\n" ∧
      Document.homeEntries document = some entries ∧ (∀ e ∈ entries, e.2.accessor = none) ∧
      builtin.generate {} document "dart" (.value .null) =
        .ok (.success code warnings metadata, notices) ∧
      (g.classSource b).accessors.map Dart.Accessor.name = ["string"] ∧
      ∀ name ∈ ["String", "Locale", "List", "Map", "BuildContext", "Localizations"],
        name ∈ (g.classSource b).typeNames ∧ ¬ (g.classSource b).HidesType name := by
  intro document entries
  have hconfig : ∃ g, Configures {} (.value .null) g "I18n" .camel "\n" ∧
      g.options.contextAccessor = true :=
    ⟨⟨_, _⟩, ⟨rfl, rfl, rfl, rfl, rfl⟩, rfl⟩
  have hhome : Document.homeEntries document = some entries := rfl
  have hnot : ∀ e ∈ entries, e.2.accessor = none := by simp [entries]
  obtain ⟨g, hconfig, hcontext⟩ := hconfig
  have hpasses : ∃ b, Passes (.str Style.camel.word) "I18n" document b :=
    ⟨_, .camel, rfl, rfl, rfl⟩
  rw [← hconfig.key_case] at hpasses
  obtain ⟨_, hpasses⟩ := hpasses
  obtain ⟨_, _, hok⟩ := hconfig.prepares.generate_of_passes hpasses
  obtain ⟨b, -, -, hnames, -, -, -, -, -, hlibrary⟩ := hidden_types hconfig hhome hnot hok
  refine ⟨g, _, _, _, _, b, hconfig, hhome, hnot, hok, hnames.trans (by rfl), ?_⟩
  intro name hname
  have htype : name ∈ (g.classSource b).libraryTypes := by
    simpa [Dart.ClassSource.libraryTypes, Dart.Generator.classSource, hcontext] using hname
  exact ⟨List.mem_append_left _ htype, hlibrary (by decide) name htype⟩

/-- In Pascal case it gets the name `String`, and the class hides the type of its accessors. -/
theorem string_hidden :
    let document : Json := .obj [("default_locale", .str "en"),
      ("locales", .obj [("en", .obj [("string", .str "x")])])]
    let config : Config := .value (.obj [("key_case", .str "pascal")])
    let entries : List (String × Document.Entry) := [("string", { text := "x" })]
    ∃ g code warnings metadata notices b, Configures {} config g "I18n" .pascal "\n" ∧
      Document.homeEntries document = some entries ∧ (∀ e ∈ entries, e.2.accessor = none) ∧
      builtin.generate {} document "dart" config =
        .ok (.success code warnings metadata, notices) ∧
      code = Layout.formatString "\n" (g.classSource b).text ∧
      "  String get String \x7b" ∈ (g.classSource b).lines ∧
      (g.classSource b).HidesType "String" := by
  intro document config entries
  have hconfig : ∃ g, Configures {} config g "I18n" .pascal "\n" :=
    ⟨⟨_, _⟩, rfl, rfl, rfl, rfl, rfl⟩
  obtain ⟨g, hconfig⟩ := hconfig
  have hpasses : ∃ b, Passes (.str Style.pascal.word) "I18n" document b ∧
      b.defaultTable.phrases = [{ key := "string", accessor := "String", text := "x" }] :=
    ⟨_, ⟨.pascal, rfl, rfl, rfl⟩, rfl⟩
  rw [← hconfig.key_case] at hpasses
  obtain ⟨b, hpasses, hphrases⟩ := hpasses
  obtain ⟨_, _, hok⟩ := hconfig.prepares.generate_of_passes hpasses
  have haccessor : g.accessor b { key := "string", accessor := "String", text := "x" } ∈
      (g.classSource b).accessors := by
    simp [Dart.Generator.classSource, Dart.Generator.accessors, hphrases]
  refine ⟨g, _, _, _, _, b, hconfig, rfl, by simp [entries], hok, rfl, ?_, ?_, ?_⟩
  · have hline : "  String get String \x7b" ∈
        (g.accessor b { key := "string", accessor := "String", text := "x" }).lines := by
      simp [Dart.Accessor.lines, Dart.Accessor.signature, Dart.Generator.accessor, Phrase.shape,
        Shape.isParameterized]
    have hlines : "  String get String \x7b" ∈
        (g.classSource b).accessors.flatMap fun a => a.lines ++ [""] :=
      List.mem_flatMap_of_mem haccessor (List.mem_append_left _ hline)
    simp [Dart.ClassSource.lines, hlines]
  · simp [Dart.ClassSource.typeNames, Dart.ClassSource.libraryTypes]
  · exact List.mem_map_of_mem haccessor

end Registry

end Phrasebook
