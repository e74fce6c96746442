-- SUMMARY: A document that gives no accessor names makes a class unless a key gets the class name.
import Mathlib.Data.List.Basic
import Mathlib.Tactic.Common
import Phrasebook.Proofs.Book.Conversion
import Phrasebook.Proofs.Dart.DerivedNames
import Phrasebook.Proofs.Generation.Steps

/-!
# Derived accessors

The converter derives accessor names and the emitter checks them again. They
agree on everything but the class name: a generation from a document without
accessor names of its own fails exactly if one of the derived names is the class
name. `generation_of_derived_names` says so for every document, and for which
class names it can happen.
-/

namespace Phrasebook

open Naming

namespace Registry

variable {store : Store} {config : Config} {g : Dart.Generator} {className ending : String}
  {style : Style} {document : Json} {b : Book}

/-! ## Configurations -/

/-- A configuration that makes a Dart generator, with a class name, a case style and a line ending
that are of the kinds they should be. -/
structure Configures (store : Store) (config : Config) (g : Dart.Generator) (className : String)
    (style : Style) (ending : String) : Prop where
  settings : settingsFor store "dart" config = .ok g.settings
  options : Dart.Options.ofCustom g.settings.custom = .ok g.options
  class_name : g.settings.className = .str className
  key_case : g.settings.keyCase = .str style.word
  line_ending : g.settings.lineEnding = .str ending

theorem Configures.prepares (h : Configures store config g className style ending) :
    Prepares store config g className ending :=
  ⟨h.settings, h.options, h.class_name, h.line_ending⟩

/-- A generation goes on with the converted book. -/
theorem Configures.generate_eq (h : Configures store config g className style ending)
    (hconv : (Document.convert style (Dart.accessorNamesFor className) document).result = .ok b) :
    ∃ notices, builtin.generate store document "dart" config =
      .ok ((g.toGenerator.run b).1, notices ++ (g.toGenerator.run b).2) :=
  ⟨_, h.prepares.generate_of_book h.key_case hconv⟩

/-! ## Converter and emitter -/

/-- Home entries that leave their names to the converter, and whose placeholders can be
parameters. -/
structure LeavesNames (entries : List (String × Document.Entry)) : Prop where
  not_given : ∀ e ∈ entries, e.2.accessor = none
  parameters : ∀ e ∈ entries, Dart.AreParameters e.2.placeholders

variable {entries : List (String × Document.Entry)}

/-- The accessors of the default table are the names derived for its keys. -/
theorem defaultTable_accessors (hnot : ∀ e ∈ entries, e.2.accessor = none)
    (hhome : Document.homeEntries document = some entries)
    (hconv : (Document.convert style (Dart.accessorNamesFor className) document).result = .ok b) :
    b.defaultTable.phrases.map Phrase.accessor =
        Dart.derivedNames className style (entries.map Prod.fst) ∧
      b.defaultTable.keys = entries.map Prod.fst := by
  obtain ⟨entries', hhome', hphrases⟩ := Document.convert_defaultTable hconv
  obtain rfl : entries = entries' := Option.some.inj (hhome.symm.trans hhome')
  rw [Document.claimEntries_of_not_given hnot] at hphrases
  constructor
  · have haccessors : b.defaultTable.phrases.map (fun p => some p.accessor) =
        ((Dart.accessorNamesFor className).run
          ((Document.requests style entries).map .allocate)).1 := by
      rw [hphrases]
      exact Document.phrasesOf_accessors hnot
    have hrequests : Document.requests style entries =
        (entries.map Prod.fst).map fun key => { key, style } := by
      simp [Document.requests]
    rw [hrequests, ← Dart.map_some_derivedNames] at haccessors
    refine List.map_injective_iff.mpr (Option.some_injective _) ?_
    rw [List.map_map]
    exact haccessors
  · rw [Table.keys, hphrases, Document.phrasesOf_keys]

/-- The placeholders of the default table are those of the home entries. -/
theorem defaultTable_parameters (hleaves : LeavesNames entries)
    (hhome : Document.homeEntries document = some entries)
    (hconv : (Document.convert style (Dart.accessorNamesFor className) document).result = .ok b) :
    ∀ p ∈ b.defaultTable.phrases, Dart.AreParameters p.placeholders := by
  obtain ⟨entries', hhome', hphrases⟩ := Document.convert_defaultTable hconv
  obtain rfl : entries = entries' := Option.some.inj (hhome.symm.trans hhome')
  have hplaceholders : b.defaultTable.phrases.map Phrase.placeholders =
      entries.map fun e => e.2.placeholders := by
    rw [hphrases]
    exact Document.phrasesOf_placeholders
  intro p hp
  have hmem : p.placeholders ∈ entries.map fun e => e.2.placeholders := by
    rw [← hplaceholders]
    exact List.mem_map_of_mem hp
  obtain ⟨e, he, heq⟩ := List.mem_map.mp hmem
  rw [← heq]
  exact hleaves.parameters e he

/-- Without accessor names of its own, a document makes a class exactly if none of its keys gets
the class name, which the emitter refuses. That happens only for a class name that is a reserved
word or a member with an underscore behind it, or a name with a number behind it. -/
theorem generation_of_derived_names (hconfig : Configures store config g className style ending)
    (hleaves : LeavesNames entries) (hhome : Document.homeEntries document = some entries)
    (hconv : (Document.convert style (Dart.accessorNamesFor className) document).result = .ok b) :
    let names := Dart.derivedNames className style (entries.map Prod.fst)
    names.Nodup ∧
    (∀ name ∈ names, Dart.IsDerivedName className name) ∧
    ((∃ code warnings metadata notices, builtin.generate store document "dart" config =
      .ok (.success code warnings metadata, notices)) ↔ className ∉ names) ∧
    (className ∈ names → ∃ key ∈ entries.map Prod.fst, ∃ notices,
      builtin.generate store document "dart" config =
        .ok (.failure (.generation (.names (.shadowing key className className))), notices)) := by
  intro names
  obtain ⟨haccessors, hkeys⟩ := defaultTable_accessors hleaves.not_given hhome hconv
  have hparams := defaultTable_parameters hleaves hhome hconv
  rw [← hkeys] at haccessors
  have hnames : Dart.derivedNames className style b.defaultTable.keys = names := by rw [hkeys]
  obtain ⟨notices, hgenerate⟩ := hconfig.generate_eq hconv
  have hnodup : names.Nodup := by
    rw [← hnames]
    exact Dart.derivedNames_nodup className style b.defaultTable.keys_nodup
  have hderived : ∀ name ∈ names, Dart.IsDerivedName className name :=
    fun name => Dart.isDerivedName_of_mem
  have hfailure : className ∈ names → ∃ key ∈ entries.map Prod.fst, ∃ notices,
      builtin.generate store document "dart" config =
        .ok (.failure (.generation (.names (.shadowing key className className))), notices) := by
    intro hclass
    obtain ⟨p, hp, hcheck⟩ :=
      Dart.checkNames_of_derived_class haccessors hparams (hnames ▸ hclass)
    refine ⟨p.key, ?_, notices ++ (g.toGenerator.run b).2, ?_⟩
    · rw [← hkeys]
      exact List.mem_map_of_mem hp
    · rw [hgenerate, hconfig.prepares.run_of_fault hcheck]
  refine ⟨hnodup, hderived, ⟨?_, ?_⟩, hfailure⟩
  · rintro ⟨code, warnings, metadata, notices', hok⟩ hclass
    obtain ⟨key, -, notices'', hfail⟩ := hfailure hclass
    rw [hok] at hfail
    simp at hfail
  · intro hclass
    have hcheck := Dart.checkNames_of_derived haccessors hparams (hnames ▸ hclass)
    obtain ⟨warnings, hrun⟩ := hconfig.prepares.run_of_names hcheck
    rw [hrun] at hgenerate
    exact ⟨_, _, _, _, hgenerate⟩

/-- Two keys that are one name, a reserved word and a text with a placeholder, in a class with a
name of its own. -/
theorem generation_of_colliding_keys :
    let entry : Json := .obj [("value", .str "Hello, {name}!"),
      ("placeholders", .arr [.str "name"])]
    let document : Json := .obj [("default_locale", .str "en"),
      ("locales", .obj [("en", .obj [("save file", .str "Save"), ("save-file", .str "Save it"),
        ("class", .str "Class"), ("hello", entry)])])]
    let config : Config := .value (.obj [("class_name", .str "Strings")])
    let entries : List (String × Document.Entry) := [("save file", { text := "Save" }),
      ("save-file", { text := "Save it" }), ("class", { text := "Class" }),
      ("hello", { text := "Hello, {name}!", placeholders := ["name"] })]
    Dart.derivedNames "Strings" .camel (entries.map Prod.fst) =
      ["saveFile", "saveFile1", "class_", "hello"] ∧
    ∃ g b, Configures {} config g "Strings" .camel "\n" ∧ LeavesNames entries ∧
      Document.homeEntries document = some entries ∧
      (Document.convert .camel (Dart.accessorNamesFor "Strings") document).result = .ok b ∧
      ∃ code warnings metadata notices, builtin.generate {} document "dart" config =
        .ok (.success code warnings metadata, notices) := by
  intro entry document config entries
  have hnames : Dart.derivedNames "Strings" .camel (entries.map Prod.fst) =
      ["saveFile", "saveFile1", "class_", "hello"] := by decide
  have hconfig : ∃ g, Configures {} config g "Strings" .camel "\n" :=
    ⟨⟨_, _⟩, rfl, rfl, rfl, rfl, rfl⟩
  have hleaves : LeavesNames entries := by
    constructor
    · simp [entries]
    · intro e he
      simp only [entries, List.mem_cons, List.not_mem_nil, or_false] at he
      rcases he with rfl | rfl | rfl | rfl
      all_goals exact ⟨by decide, by decide⟩
  have hhome : Document.homeEntries document = some entries := rfl
  have hconv : ∃ b, (Document.convert .camel (Dart.accessorNamesFor "Strings") document).result =
      .ok b := ⟨_, rfl⟩
  obtain ⟨g, hconfig⟩ := hconfig
  obtain ⟨b, hconv⟩ := hconv
  have hgeneration := generation_of_derived_names hconfig hleaves hhome hconv
  have hclass : "Strings" ∉ Dart.derivedNames "Strings" .camel (entries.map Prod.fst) := by
    rw [hnames]
    decide
  exact ⟨hnames, g, b, hconfig, hleaves, hhome, hconv, hgeneration.2.2.1.mpr hclass⟩

/-- The key `else` gets the name `else_` even in a class of that name, an identifier that is not
reserved, and the class is refused. -/
theorem no_generation_of_else :
    let document : Json := .obj [("default_locale", .str "en"),
      ("locales", .obj [("en", .obj [("else", .str "x")])])]
    let config : Config := .value (.obj [("class_name", .str "else_")])
    let entries : List (String × Document.Entry) := [("else", { text := "x" })]
    Dart.isIdentifier "else_" ∧ "else_" ∉ Dart.reservedWords ∧
    (∃ g, Configures {} config g "else_" .camel "\n") ∧ LeavesNames entries ∧
    Document.homeEntries document = some entries ∧
    (∃ b, (Document.convert .camel (Dart.accessorNamesFor "else_") document).result = .ok b) ∧
    Dart.derivedNames "else_" .camel (entries.map Prod.fst) = ["else_"] ∧
    ∃ notices, builtin.generate {} document "dart" config =
      .ok (.failure (.generation (.names (.shadowing "else" "else_" "else_"))), notices) := by
  intro document config entries
  have hleaves : LeavesNames entries := by
    constructor
    · simp [entries]
    · simp only [entries, List.forall_mem_singleton]
      exact ⟨List.nodup_nil, by simp⟩
  exact ⟨by decide, by decide, ⟨⟨_, _⟩, rfl, rfl, rfl, rfl, rfl⟩, hleaves, rfl, ⟨_, rfl⟩, rfl,
    ⟨_, rfl⟩⟩

end Registry

end Phrasebook
