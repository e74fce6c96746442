-- SUMMARY: What a generation that succeeds comes from, and when it warns of nothing.
import Phrasebook.Proofs.Book.Review
import Phrasebook.Proofs.Generation.Collisions
import Phrasebook.Proofs.Generation.Outcome

/-!
# Success

A generation that succeeds has made settings, a book and a class of it, and each
of them can be told from the result: the warnings are what the review of the book
finds, and maybe one of the class name. So there are none exactly if the document
is consistent and the class name can stand in the class.
-/

namespace Phrasebook

/-! ## Results -/

namespace Dart.Generator

variable {g : Generator} {b : Book} {document : Json} {code : String} {warnings : List Warning}
  {metadata : Metadata} {notices : List Notice}

/-- What a run that makes a class has found and made. -/
structure Yields (g : Generator) (b : Book) (className ending : String) (code : String)
    (warnings : List Warning) (metadata : Metadata) : Prop where
  class_name : g.settings.className = .str className
  line_ending : g.settings.lineEnding = .str ending
  names : checkNames (.str className) b = .ok ()
  code : code = Layout.formatString ending (g.classSource b).text
  warnings : warnings =
    b.review ++ if Dart.isIdentifier className then [] else [.className className]
  metadata : metadata = g.toGenerator.metadata b

theorem exists_yields_of_run (h : (g.toGenerator.run b).1 = .success code warnings metadata) :
    ∃ className ending, g.Yields b className ending code warnings metadata := by
  unfold Phrasebook.Generator.run at h
  split at h
  case h_2 => cases h
  case h_1 code warnings htry =>
    cases h
    obtain ⟨found, hreview, hrest⟩ := Except.bind_eq_ok_iff.mp htry
    obtain ⟨text, hgenerate, hlast⟩ := Except.bind_eq_ok_iff.mp hrest
    obtain ⟨laid, hformat, hpair⟩ := Except.bind_eq_ok_iff.mp hlast
    cases hpair
    have hreview := Except.mapError_eq_ok_iff.mp hreview
    have hformat := Except.mapError_eq_ok_iff.mp hformat
    obtain ⟨⟨⟩, hnames, htext⟩ := Except.bind_eq_ok_iff.mp (Except.mapError_eq_ok_iff.mp hgenerate)
    obtain rfl := Except.ok.inj htext
    have hreview : g.review b = .ok warnings := hreview
    unfold review at hreview
    split at hreview
    case h_2 => cases hreview
    case h_1 className hclass =>
      cases hreview
      have hformat : Phrasebook.Generator.format g.settings (g.classSource b).text = .ok code :=
        hformat
      unfold Phrasebook.Generator.format at hformat
      split at hformat
      case h_2 => cases hformat
      case h_1 ending hending =>
        obtain rfl := Except.ok.inj hformat
        rw [hclass] at hnames
        exact ⟨className, ending, hclass, hending, hnames, rfl, rfl, rfl⟩

/-- A class for a document is made for the book that the document is converted to. -/
theorem exists_yields_of_runDocument
    (h : g.toGenerator.runDocument document = .ok (.success code warnings metadata, notices)) :
    ∃ style names b className ending, (Document.convert style names document).result = .ok b ∧
      g.Yields b className ending code warnings metadata := by
  unfold Phrasebook.Generator.runDocument at h
  split at h
  · simp [Except.map] at h
  · rename_i style hstyle
    split at h
    · cases h
    · rename_i names hnames
      simp only at h
      split at h
      · cases h
      · rename_i b hconvert
        obtain ⟨hresult, -⟩ := Prod.mk.inj (Except.ok.inj h)
        obtain ⟨className, ending, hyields⟩ := exists_yields_of_run hresult
        exact ⟨style, _, b, className, ending, hconvert, hyields⟩

end Dart.Generator

/-! ## Warnings -/

namespace Registry

open Document

/-- A generation that succeeds warns of nothing exactly if the home locale has an entry, every other
locale has just its keys and gives no placeholders but those that the home entries give, and the
class name is an identifier. -/
theorem warnings_complete {r : Registry} {e : Entry} {store : Store} {document : Json}
    {language code : String} {config : Config} {warnings : List Warning} {metadata : Metadata}
    {notices : List Notice} (hentry : r.entry language = .ok e) (hdart : e.generator = dartClass)
    (hkeys : Json.DistinctKeys document)
    (h : r.generate store document language config =
      .ok (.success code warnings metadata, notices)) :
    (∃ home chapters, Describes document home chapters) ∧
    ∃ settings className, settingsFor store e.language config = .ok settings ∧
      settings.className = .str className ∧
      ∀ home chapters main, Describes document home chapters → main ∈ chapters →
        main.locale = home →
        (warnings = [] ↔
          main.entries ≠ [] ∧ (∀ c ∈ chapters, c.locale ≠ home → c.Agrees main) ∧
            Dart.isIdentifier className) := by
  obtain ⟨g, hsettings, hrun⟩ := exists_generator_of_generate hentry hdart h
  obtain ⟨style, names, b, className, ending, hconvert, hyields⟩ :=
    Dart.Generator.exists_yields_of_runDocument hrun
  refine ⟨exists_describes_of_convert hconvert, g.settings, className, hsettings,
    hyields.class_name, ?_⟩
  intro home chapters main hdescribes hmem hlocale
  obtain ⟨rfl, hnodup, hholds⟩ := holds_of_convert hkeys hdescribes hconvert
  have hname : (if Dart.isIdentifier className then [] else [Warning.className className]) = [] ↔
      Dart.isIdentifier className := by simp
  rw [hyields.warnings, List.append_eq_nil_iff, hname,
    review_eq_nil_iff_agrees hholds hnodup hmem hlocale, and_assoc]

/-- Two locales that agree under the default settings. The entry of the one that is not the home
locale gives no placeholders. -/
theorem warnings_complete_of_greeting :
    let document : Json := .obj [("default_locale", .str "en"), ("locales", .obj [
      ("de", .obj [("greet", .str "Hallo")]),
      ("en", .obj [("greet", .obj [("value", .str "Hi"), ("placeholders", .arr [.str "name"])])])])]
    let home : Locale := { language := "en" }
    let main : Chapter := ⟨home, [("greet", { text := "Hi", placeholders := ["name"] })]⟩
    let chapters : List Chapter :=
      [⟨{ language := "de" }, [("greet", { text := "Hallo" })]⟩, main]
    Json.DistinctKeys document ∧ Describes document home chapters ∧
    ∃ code metadata notices, builtin.generate {} document "dart" (.value .null) =
      .ok (.success code [] metadata, notices) := by
  intro document home main chapters
  have hkeys : Json.DistinctKeys document := by simp [document, Json.Fields.keys]
  have hdescribes : Describes document home chapters := by
    have hen : SaysEntry (.obj [("value", .str "Hi"), ("placeholders", .arr [.str "name"])])
        { text := "Hi", placeholders := ["name"] } := .fields rfl (.names ["name"]) .absent
    have htag : Locale.parse "en" = .ok ⟨home, none⟩ := by rfl
    have htag' : Locale.parse "de" = .ok ⟨{ language := "de" }, none⟩ := by rfl
    exact .mk rfl (by decide) htag rfl (by simp)
      (.cons (.mk htag' (.cons ⟨rfl, .text _⟩ .nil)) (.cons (.mk htag (.cons ⟨rfl, hen⟩ .nil)) .nil))
      (by decide) (by decide)
  obtain ⟨g, hprepares, hcamel⟩ : ∃ g, Prepares {} (.value .null) g "I18n" "\n" ∧
      g.settings.keyCase = .str Naming.Style.camel.word :=
    ⟨⟨_, _⟩, ⟨rfl, rfl, rfl, rfl⟩, rfl⟩
  have hpasses : ∃ b, Passes g.settings.keyCase "I18n" document b := by
    rw [hcamel]
    exact ⟨_, .camel, rfl, rfl, by decide +kernel⟩
  obtain ⟨b, hpasses⟩ := hpasses
  obtain ⟨warnings, notices, hgenerate⟩ := hprepares.generate_of_passes hpasses
  obtain ⟨-, settings, className, hsettings, hclass, hwarnings⟩ :=
    warnings_complete (r := builtin) rfl rfl hkeys hgenerate
  obtain rfl : g.settings = settings := Except.ok.inj (hprepares.settings.symm.trans hsettings)
  obtain rfl : "I18n" = className := Json.str.inj (hprepares.class_name.symm.trans hclass)
  have hagrees : ∀ c ∈ chapters, c.locale ≠ home → c.Agrees main := by
    intro c hc hne
    obtain rfl | rfl := by simpa [chapters] using hc
    · refine ⟨by simp [Chapter.keys, main], fun key own definition hown _ hgiven => ?_⟩
      obtain ⟨-, rfl⟩ : key = "greet" ∧ own = { text := "Hallo" } := by simpa using hown
      exact absurd rfl hgiven
    · exact absurd rfl hne
  obtain rfl := (hwarnings home chapters main hdescribes (by simp [chapters]) rfl).mpr
    ⟨by simp [main], hagrees, by decide⟩
  exact ⟨hkeys, hdescribes, _, _, _, hgenerate⟩

end Registry

end Phrasebook
