-- SUMMARY: Three checks and two values that may have to be shown decide what a generation comes to.
import Phrasebook.Proofs.Dart.RenderedClass
import Phrasebook.Proofs.Generation.Steps

/-!
# Outcomes of generation

A generation from a document makes a class if the case style is known, the
document makes a book, and the names of the book can stand in the class. If it
makes none, it keeps the fault of the first of these checks that fails. Where
values are shown within limits only, two more things can go wrong: the marker of
missing texts may have to stand in the class and cannot be shown, which is the
last fault, and a case style that is none may be nested too deeply to be named in
a failure, so that there is not even a result. Nothing else happens to a
document, whatever it holds: the review, the other templates and the layout of
the class cannot fail under a configuration whose class name and line ending are
texts.
-/

namespace Phrasebook

open Naming

/-! ## Checks -/

/-- A document that passes all checks, and the book that it makes. -/
def Passes (keyCase : Json) (className : String) (document : Json) (b : Book) : Prop :=
  ∃ style : Style, keyCase = .str style.word ∧
    (Document.convert style (Dart.accessorNamesFor className) document).result = .ok b ∧
    Dart.checkNames (.str className) b = .ok ()

/-- The case style is none, and it is nested too deeply for the failure that would show it. -/
structure KeyCaseTooDeep (keyCase : Json) (limits : Limits) : Prop where
  not_style : ∀ style : Style, keyCase ≠ .str style.word
  unshown : keyCase.unshown? limits.keyCase = some .depth

/-- The marker can be shown, or no text is missing where the accessors are documented. -/
def Dart.Generator.MarkerShown (g : Dart.Generator) (limits : Limits) (b : Book) : Prop :=
  g.documented → (∃ p ∈ b.defaultTable.phrases, ∃ t ∈ b.tablesByTag, t.get? p.key = none) →
    g.options.missingMarker.unshown? limits.output = none

/-- The first check that a document does not pass, and its fault. A marker that has to be shown is
looked at last. -/
inductive FailsFirst (g : Dart.Generator) (limits : Limits) (className : String) (document : Json) :
    Failure → Prop where
  | keyCase (hstyle : ∀ style : Style, g.settings.keyCase ≠ .str style.word)
      (hshown : g.settings.keyCase.unshown? limits.keyCase = none) :
      FailsFirst g limits className document (.keyCase g.settings.keyCase)
  | keyCaseDigits {most : Nat} (hstyle : ∀ style : Style, g.settings.keyCase ≠ .str style.word)
      (hdigits : g.settings.keyCase.unshown? limits.keyCase = some (.digits most)) :
      FailsFirst g limits className document (.unshownKeyCase (.digits most))
  | document {style : Style} {fault : Document.Fault} (hstyle : g.settings.keyCase = .str style.word)
      (hconv : (Document.convert style (Dart.accessorNamesFor className) document).result =
        .error fault) :
      FailsFirst g limits className document (.document fault)
  | names {style : Style} {b : Book} {fault : Dart.NameFault}
      (hstyle : g.settings.keyCase = .str style.word)
      (hconv : (Document.convert style (Dart.accessorNamesFor className) document).result = .ok b)
      (hnames : Dart.checkNames (.str className) b = .error fault) :
      FailsFirst g limits className document (.generation (.names fault))
  | marker {b : Book} {cause : Json.Unshown}
      (hpasses : Passes g.settings.keyCase className document b) (hdocumented : g.documented)
      (hmissing : ∃ p ∈ b.defaultTable.phrases, ∃ t ∈ b.tablesByTag, t.get? p.key = none)
      (hmarker : g.options.missingMarker.unshown? limits.output = some cause) :
      FailsFirst g limits className document (.generation (.template (Dart.markerFault cause)))

variable {g : Dart.Generator} {limits : Limits} {className : String} {document keyCase : Json}
  {b : Book}

theorem Dart.Generator.unshownMarker?_eq_none_iff_markerShown :
    g.unshownMarker? b limits.output = none ↔ g.MarkerShown limits b := by
  rw [unshownMarker?_eq_none_iff, needsMarker_iff, and_imp]
  rfl

theorem passes_or_failsFirst (h : ¬ KeyCaseTooDeep g.settings.keyCase limits) :
    (∃ b, Passes g.settings.keyCase className document b ∧ g.MarkerShown limits b) ∨
      ∃ cause, FailsFirst g limits className document cause := by
  by_cases hstyle : ∃ style : Style, g.settings.keyCase = .str style.word
  · obtain ⟨style, hstyle⟩ := hstyle
    cases hconv : (Document.convert style (Dart.accessorNamesFor className) document).result with
    | error fault => exact .inr ⟨_, .document hstyle hconv⟩
    | ok b =>
      cases hnames : Dart.checkNames (.str className) b with
      | error fault => exact .inr ⟨_, .names hstyle hconv hnames⟩
      | ok =>
        have hpasses : Passes g.settings.keyCase className document b :=
          ⟨style, hstyle, hconv, hnames⟩
        cases hmarker : g.unshownMarker? b limits.output with
        | none =>
          exact .inl ⟨b, hpasses, Dart.Generator.unshownMarker?_eq_none_iff_markerShown.mp hmarker⟩
        | some cause =>
          obtain ⟨hneeds, hcause⟩ := Dart.Generator.unshownMarker?_eq_some_iff.mp hmarker
          obtain ⟨hdocumented, hmissing⟩ := Dart.Generator.needsMarker_iff.mp hneeds
          exact .inr ⟨_, .marker hpasses hdocumented hmissing hcause⟩
  · cases hshown : g.settings.keyCase.unshown? limits.keyCase with
    | none => exact .inr ⟨_, .keyCase (not_exists.mp hstyle) hshown⟩
    | some cause =>
      cases cause with
      | digits most => exact .inr ⟨_, .keyCaseDigits (not_exists.mp hstyle) hshown⟩
      | depth => exact absurd ⟨not_exists.mp hstyle, hshown⟩ h

theorem not_keyCaseTooDeep_of_style {style : Style} (hstyle : keyCase = .str style.word) :
    ¬ KeyCaseTooDeep keyCase limits :=
  fun h => h.not_style style hstyle

/-- A document that fails a check first has a case style that does not go too deep. -/
theorem FailsFirst.not_keyCaseTooDeep {cause : Failure}
    (h : FailsFirst g limits className document cause) :
    ¬ KeyCaseTooDeep g.settings.keyCase limits := by
  cases h with
  | keyCase _ hshown =>
    intro hdeep
    exact absurd (hshown.symm.trans hdeep.unshown) (by simp)
  | keyCaseDigits _ hdigits =>
    intro hdeep
    exact absurd (hdigits.symm.trans hdeep.unshown) (by simp)
  | document hstyle => exact not_keyCaseTooDeep_of_style hstyle
  | names hstyle => exact not_keyCaseTooDeep_of_style hstyle
  | marker hpasses =>
    obtain ⟨style, hstyle, -, -⟩ := hpasses
    exact not_keyCaseTooDeep_of_style hstyle

namespace Registry

variable {store : Store} {config : Config} {ending : String}

/-! ## Results -/

theorem Prepares.generate_of_shown (h : Prepares store config g className ending)
    (hpasses : Passes g.settings.keyCase className document b) (hmarker : g.MarkerShown limits b) :
    ∃ warnings notices, builtin.generate store document "dart" config limits =
      .ok (.success (Layout.formatString ending (g.classSource b).text) warnings
        (g.toGenerator.metadata b), notices) := by
  obtain ⟨style, hstyle, hconv, hnames⟩ := hpasses
  obtain ⟨warnings, hrun⟩ :=
    h.run_of_shown hnames (Dart.Generator.unshownMarker?_eq_none_iff_markerShown.mpr hmarker)
  have hgenerate : builtin.generate store document "dart" config limits = _ :=
    h.generate_of_book hstyle hconv
  rw [hrun] at hgenerate
  exact ⟨warnings, _, hgenerate⟩

/-- Without limits, passing the checks is enough. -/
theorem Prepares.generate_of_passes (h : Prepares store config g className ending)
    (hpasses : Passes g.settings.keyCase className document b) :
    ∃ warnings notices, builtin.generate store document "dart" config =
      .ok (.success (Layout.formatString ending (g.classSource b).text) warnings
        (g.toGenerator.metadata b), notices) :=
  h.generate_of_shown hpasses fun _ _ => Json.unshown?_none _

theorem Prepares.generate_of_failsFirst (h : Prepares store config g className ending)
    {cause : Failure} (hfails : FailsFirst g limits className document cause) :
    ∃ notices, builtin.generate store document "dart" config limits =
      .ok (.failure cause, notices) := by
  cases hfails with
  | keyCase hstyle hshown =>
    refine ⟨[], ?_⟩
    rw [h.generate_of_keyCase hstyle, Generator.keyCaseFailure, hshown]
    rfl
  | keyCaseDigits hstyle hdigits =>
    refine ⟨[], ?_⟩
    rw [h.generate_of_keyCase hstyle, Generator.keyCaseFailure, hdigits]
    rfl
  | document hstyle hconv => exact ⟨_, h.generate_of_fault hstyle hconv⟩
  | names hstyle hconv hnames =>
    have hgenerate : builtin.generate store document "dart" config limits = _ :=
      h.generate_of_book hstyle hconv
    rw [h.run_of_fault hnames] at hgenerate
    exact ⟨_, hgenerate⟩
  | marker hpasses hdocumented hmissing hmarker =>
    obtain ⟨style, hstyle, hconv, hnames⟩ := hpasses
    have hgenerate : builtin.generate store document "dart" config limits = _ :=
      h.generate_of_book hstyle hconv
    rw [h.run_of_unshown hnames (Dart.Generator.unshownMarker?_eq_some_iff.mpr
      ⟨Dart.Generator.needsMarker_iff.mpr ⟨hdocumented, hmissing⟩, hmarker⟩)] at hgenerate
    exact ⟨_, hgenerate⟩

/-- A case style that goes too deep leaves no result. -/
theorem Prepares.generate_of_keyCaseTooDeep (h : Prepares store config g className ending)
    (hdeep : KeyCaseTooDeep g.settings.keyCase limits) (document : Json) :
    builtin.generate store document "dart" config limits = .error (.misuse .depth) := by
  rw [h.generate_of_keyCase hdeep.not_style, Generator.keyCaseFailure, hdeep.unshown]
  rfl

/-- Whatever a document holds, its generation comes to a result. -/
theorem Prepares.exists_result (h : Prepares store config g className ending)
    (hdeep : ¬ KeyCaseTooDeep g.settings.keyCase limits) (document : Json) :
    ∃ result notices,
      builtin.generate store document "dart" config limits = .ok (result, notices) := by
  rcases passes_or_failsFirst hdeep with ⟨b, hpasses, hmarker⟩ | ⟨cause, hfails⟩
  · obtain ⟨_, _, hgenerate⟩ := h.generate_of_shown hpasses hmarker
    exact ⟨_, _, hgenerate⟩
  · obtain ⟨_, hgenerate⟩ := h.generate_of_failsFirst hfails
    exact ⟨_, _, hgenerate⟩

variable {result : Generation} {notices : List Notice}

section Result

variable (h : Prepares store config g className ending)
  (hgenerate : builtin.generate store document "dart" config limits = .ok (result, notices))
include h hgenerate

theorem Prepares.result_of_shown (hpasses : Passes g.settings.keyCase className document b)
    (hmarker : g.MarkerShown limits b) :
    ∃ warnings, result = .success (Layout.formatString ending (g.classSource b).text) warnings
      (g.toGenerator.metadata b) := by
  obtain ⟨warnings, _, hsuccess⟩ := h.generate_of_shown hpasses hmarker
  rw [hgenerate] at hsuccess
  exact ⟨warnings, congrArg Prod.fst (Except.ok.inj hsuccess)⟩

theorem Prepares.result_of_failsFirst {cause : Failure}
    (hfails : FailsFirst g limits className document cause) :
    result = .failure cause := by
  obtain ⟨_, hfailure⟩ := h.generate_of_failsFirst hfails
  rw [hgenerate] at hfailure
  exact congrArg Prod.fst (Except.ok.inj hfailure)

theorem Prepares.not_keyCaseTooDeep : ¬ KeyCaseTooDeep g.settings.keyCase limits := by
  intro hdeep
  rw [h.generate_of_keyCaseTooDeep hdeep] at hgenerate
  cases hgenerate

theorem Prepares.succeeds_iff : result.succeeds ↔
    ∃ b, Passes g.settings.keyCase className document b ∧ g.MarkerShown limits b := by
  constructor
  · intro hsucceeds
    rcases passes_or_failsFirst (h.not_keyCaseTooDeep hgenerate) with
      hpasses | ⟨cause, hfails⟩
    · exact hpasses
    · rw [h.result_of_failsFirst hgenerate hfails] at hsucceeds
      cases hsucceeds
  · rintro ⟨b, hpasses, hmarker⟩
    obtain ⟨warnings, hresult⟩ := h.result_of_shown hgenerate hpasses hmarker
    rw [hresult]
    rfl

theorem Prepares.failure?_eq_some_iff {cause : Failure} :
    result.failure? = some cause ↔ FailsFirst g limits className document cause := by
  constructor
  · intro hcause
    rcases passes_or_failsFirst (h.not_keyCaseTooDeep hgenerate) with
      ⟨b, hpasses, hmarker⟩ | ⟨other, hfails⟩
    · obtain ⟨warnings, hresult⟩ := h.result_of_shown hgenerate hpasses hmarker
      rw [hresult] at hcause
      cases hcause
    · rw [h.result_of_failsFirst hgenerate hfails] at hcause
      obtain rfl := Option.some.inj hcause
      exact hfails
  · intro hfails
    rw [h.result_of_failsFirst hgenerate hfails]
    rfl

end Result

/-- A generation without a class has nothing but its cause. -/
theorem empty_of_not_succeeds (hsucceeds : ¬ result.succeeds) :
    result.code = "" ∧ result.warnings = [] ∧ result.metadata = [] ∧
      ∃ cause, result.failure? = some cause := by
  cases result with
  | success code warnings metadata => exact absurd rfl hsucceeds
  | failure cause => exact ⟨rfl, rfl, rfl, cause, rfl⟩

/-- A number within so many lists. -/
def nested : Nat → Json
  | 0 => .int 1
  | n + 1 => .arr [nested n]

theorem unquoted?_nested {digits depth n : Nat} (h : depth < n) :
    (nested n).unquoted? digits depth = some .depth := by
  induction n generalizing depth with
  | zero => cases h
  | succ n ih =>
    rw [nested, Json.unquoted?]
    cases depth with
    | zero => rfl
    | succ depth => rw [Json.unquotedItems?, ih (Nat.lt_of_succ_lt_succ h), Option.some_or]

theorem unshown?_nested {l : Json.Limit} {n : Nat} (h : l.depth < n) :
    (nested n).unshown? (some l) = some .depth := by
  cases n with
  | zero => cases h
  | succ n => exact unquoted?_nested h

/-- The default settings, but with a list for the case style. -/
theorem prepares_keyCase (items : List Json) :
    ∃ g, Prepares {} (.value (.obj [("key_case", .arr items)])) g "I18n" "\n" ∧
      g.settings.keyCase = .arr items :=
  ⟨⟨_, _⟩, ⟨rfl, rfl, rfl, rfl⟩, rfl⟩

/-- The default settings, but with a list for the marker. -/
theorem prepares_missingMarker (items : List Json) :
    ∃ g, Prepares {} (.value (.obj [("missing_marker", .arr items)])) g "I18n" "\n" ∧
      g.settings.keyCase = .str Style.camel.word ∧ g.options.missingMarker = .arr items ∧
      g.documented :=
  ⟨⟨_, _⟩, ⟨rfl, rfl, rfl, rfl⟩, rfl, rfl, rfl⟩

end Registry

end Phrasebook
