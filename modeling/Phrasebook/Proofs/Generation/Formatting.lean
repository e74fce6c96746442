-- SUMMARY: Layout never changes a generated class, but for its line endings.
import Phrasebook.Proofs.Book.Contents
import Phrasebook.Proofs.Dart.ClassBlocks
import Phrasebook.Proofs.Dart.DocumentationLines
import Phrasebook.Proofs.Dart.TypeNames
import Phrasebook.Proofs.Generation.Steps

/-!
# Formatting

What is generated for a book is laid out before it is given out. The names of a
book that passes the check and the types that the options name are identifiers,
the tags of a converted book have no line feeds, and a marker is asked to have
none. So the class is laid out already, and the layout only puts the line ending
in. In particular no whitespace is lost in the literals that keys and texts are
written as.
-/

namespace Phrasebook.Dart

open Text Layout

/-! ## What a class shows -/

/-- Code in which a text stands as a literal. -/
def ShowsLiteral (code s : String) : Prop :=
  (literal s).toList <:+: code.toList

theorem showsLiteral_of_mem {opening closing s : String} {lines : List String}
    (h : opening ++ literal s ++ closing ∈ lines) : ShowsLiteral (ofLines lines) s := by
  have hline : (literal s).toList <:+: (opening ++ literal s ++ closing).toList :=
    ⟨opening.toList, closing.toList, by simp⟩
  exact hline.trans (infix_ofLines_of_mem h)

/-- A literal has no line feeds that a line ending could be put in the place of. -/
theorem ShowsLiteral.withEnding {code s : String} (h : ShowsLiteral code s) (ending : List Char) :
    ShowsLiteral (String.ofList (withEnding ending code.toList)) s := by
  rw [ShowsLiteral, String.toList_ofList]
  exact infix_withEnding ending h (breaksLines_line_feed.breakFree_literal s).not_mem

namespace Generator

variable {g : Generator} {b : Book}

/-- Code in which every key stands as a literal, and every text that is documented. -/
structure ShowsBook (g : Generator) (b : Book) (code : String) : Prop where
  keys : ∀ p ∈ b.defaultTable.phrases, ShowsLiteral code p.key
  texts : g.documented → ∀ p ∈ b.defaultTable.phrases, ∀ t ∈ b.tables, ∀ q,
    t.get? p.key = some q → ShowsLiteral code q.text

theorem ShowsBook.withEnding {code : String} (h : g.ShowsBook b code) (ending : List Char) :
    g.ShowsBook b (String.ofList (withEnding ending code.toList)) where
  keys p hp := (h.keys p hp).withEnding ending
  texts hdocumented p hp t ht q hq := (h.texts hdocumented p hp t ht q hq).withEnding ending

/-- A class shows its keys in the cases of the dispatch, and texts in documentation. -/
theorem showsBook_text (g : Generator) (b : Book) : g.ShowsBook b (g.classSource b).text := by
  have hshows : ∀ {opening closing s : String},
      opening ++ literal s ++ closing ∈ (g.classSource b).lines →
        ShowsLiteral (g.classSource b).text s := by
    intro opening closing s hline
    rw [ShowsLiteral, ClassSource.text, String.toList_append]
    exact List.infix_append_of_infix_left (showsLiteral_of_mem hline)
  constructor
  · intro p hp
    have hcase : ⟨p.key, p.accessor, p.shape⟩ ∈ (g.dispatch b).cases := List.mem_map_of_mem hp
    have hdispatch : "      case " ++ literal p.key ++ ":" ∈ (g.dispatch b).lines := by
      rw [Dispatch.lines_eq, List.mem_append, List.mem_append, List.mem_append, List.mem_flatMap]
      exact .inr (.inr (.inl ⟨_, hcase, by simp [Case.lines]⟩))
    have hline : "      case " ++ literal p.key ++ ":" ∈ (g.classSource b).lines := by
      simp [ClassSource.lines, classSource, hdispatch]
    exact hshows hline
  · intro hdocumented p hp t ht q hq
    have hrow : docRow p t ∈ (g.docTable b p).rows :=
      List.mem_map_of_mem (Book.mem_tablesByTag.mpr ht)
    have htable : "  ///     <td>" ++ literal q.text ++ "</td>" ∈ (g.docTable b p).lines := by
      simp only [DocTable.lines, List.mem_append, List.mem_flatMap]
      exact .inl (.inr ⟨_, hrow, by simp [DocRow.lines, DocRow.cell, docRow, hq]⟩)
    have haccessor : "  ///     <td>" ++ literal q.text ++ "</td>" ∈ (g.accessor b p).lines := by
      simp [Accessor.lines, accessor, hdocumented, htable]
    have hline : "  ///     <td>" ++ literal q.text ++ "</td>" ∈ (g.classSource b).lines := by
      simp only [ClassSource.lines, List.mem_append, List.mem_flatMap]
      exact .inl (.inl (.inr ⟨_, List.mem_map_of_mem hp, .inl haccessor⟩))
    exact hshows hline

/-! ## Layout -/

/-- The class of a book has names with nothing blank before a line feed, if it passes the check. -/
theorem hasParts_classSource {className : String}
    (hoptions : Options.ofCustom g.settings.custom = .ok g.options)
    (hclass : g.settings.className = .str className) (hname : isIdentifier className)
    (hnames : checkNames (.str className) b = .ok ()) (hread : ∀ t ∈ b.tables, t.locale.IsRead)
    (hmarker : '\n' ∉ g.options.missingMarker.display.toList) : (g.classSource b).HasParts := by
  have htypes := namesTypes_classSource hoptions b
  obtain ⟨hgood, -⟩ := checkNames_eq_ok_iff.mp hnames
  constructor
  case name =>
    rw [classSource, hclass]
    exact isPart_of_isIdentifier hname
  case lookup_type => exact isPart_of_isIdentifier htypes.lookup
  case custom_lookup_type => exact isPart_of_isIdentifier htypes.custom_lookup
  case delegate_type => exact isPart_of_isIdentifier htypes.delegate
  case accessors =>
    intro a ha
    obtain ⟨p, hp, rfl⟩ := List.mem_map.mp ha
    constructor
    case name => exact isPart_of_isIdentifier (hgood p hp).1.identifier
    case parameters =>
      intro x hx
      have hx := (hgood p hp).2.valid x hx
      simp only [isParameterName, Bool.and_eq_true] at hx
      exact isPart_of_isIdentifier hx.1.1
    case tags =>
      intro table htable
      obtain rfl := docTable_eq_of_mem htable
      exact forall_tag_docTable.mpr fun t ht =>
        isPart_of_breakFree (breaksLines_line_feed.breakFree_tag (hread t ht))
    case marker =>
      intro table htable
      obtain rfl := docTable_eq_of_mem htable
      exact breaksAfterInk_of_not_mem hmarker
  case cases =>
    intro k hk
    obtain ⟨p, hp, rfl⟩ := List.mem_map.mp hk
    exact isPart_of_isIdentifier (hgood p hp).1.identifier

theorem settings_of_ofSettings {settings : Settings} (h : ofSettings settings = .ok g) :
    g.settings = settings ∧ Options.ofCustom g.settings.custom = .ok g.options := by
  obtain ⟨options, hoptions, hmade⟩ := Except.bind_eq_ok_iff.mp h
  cases hmade
  exact ⟨rfl, hoptions⟩

/-- Layout never changes a generated class. Of a converted book that passes the check, under a class
name that is an identifier, options that are read and a marker without line feeds, the code is what
is generated if the line ending is a line feed, and otherwise that with the line ending in the place
of every line feed. So every key stands in the code as a literal with all of its whitespace, and so
does every text that is documented. -/
theorem format_keeps_class {settings : Settings} {style : Naming.Style} {names : Naming.Allocator}
    {document : Json} {className : String} (hmade : ofSettings settings = .ok g)
    (hconvert : (Document.convert style names document).result = .ok b)
    (hclass : settings.className = .str className) (hname : isIdentifier className)
    (hnames : checkNames settings.className b = .ok ())
    (hmarker : '\n' ∉ g.options.missingMarker.display.toList) :
    ∃ text, g.generate b = .ok text ∧ g.generateRendered b = .ok text ∧
      (settings.lineEnding = .str "\n" → ∃ warnings metadata,
        (g.toGenerator.run b).1 = .success text warnings metadata ∧ g.ShowsBook b text) ∧
      (settings.lineEnding = .str "\x0d\n" → ∃ code warnings metadata,
        (g.toGenerator.run b).1 = .success code warnings metadata ∧
        code.toList = withEnding ['\r', '\n'] text.toList ∧ g.ShowsBook b code) := by
  obtain ⟨rfl, hoptions⟩ := settings_of_ofSettings hmade
  obtain ⟨-, hread⟩ := Document.locales_of_convert hconvert
  rw [hclass] at hnames
  have hparts := hasParts_classSource hoptions hclass hname hnames hread hmarker
  have hgenerate := generate_of_names hclass hnames
  have hrun : ∀ ending : LineEnding, g.settings.lineEnding = .str (String.ofList ending.chars) →
      ∃ warnings metadata, (g.toGenerator.run b).1 = .success (String.ofList
        (withEnding ending.chars (g.classSource b).text.toList)) warnings metadata := by
    intro ending hending
    obtain ⟨warnings, hrun⟩ := exists_run_of_names hclass hnames hending
    rw [hparts.formatString_text ending] at hrun
    exact ⟨warnings, _, congrArg Prod.fst hrun⟩
  refine ⟨_, hgenerate, ?_, fun hending => ?_, fun hending => ?_⟩
  · rw [generateRendered_eq, hgenerate]
    rfl
  · obtain ⟨warnings, metadata, hrun⟩ := hrun .lf hending
    have hlf : LineEnding.lf.chars = ['\n'] := rfl
    rw [hlf, withEnding_line_feed, String.ofList_toList] at hrun
    exact ⟨warnings, metadata, hrun, g.showsBook_text b⟩
  · obtain ⟨warnings, metadata, hrun⟩ := hrun .crlf hending
    exact ⟨_, warnings, metadata, hrun, String.toList_ofList, (g.showsBook_text b).withEnding _⟩

/-- A key and a text with empty lines and blanks at their ends, written with the longer ending. -/
theorem format_keeps_class_of_blanks :
    let document : Json := .obj [("default_locale", .str "en"), ("locales", .obj [
      ("de", .obj []),
      ("en", .obj [("a  b\n\n ", .str "x \n\n\n\ty ")])])]
    let settings : Settings := { lineEnding := .str "\x0d\n" }
    ∃ (g : Generator) (b : Book) (text code : String) (warnings : List Warning)
      (metadata : Metadata),
      ofSettings settings = .ok g ∧
      (Document.convert .camel (accessorNamesFor "I18n") document).result = .ok b ∧
      g.generate b = .ok text ∧
      (g.toGenerator.run b).1 = .success code warnings metadata ∧
      code.toList = withEnding ['\r', '\n'] text.toList ∧
      ShowsLiteral code "a  b\n\n " ∧ ShowsLiteral code "x \n\n\n\ty " := by
  intro document settings
  obtain ⟨b, p, hconvert, hnames, hphrases, hkey, htext⟩ : ∃ b p,
      (Document.convert .camel (accessorNamesFor "I18n") document).result = .ok b ∧
      checkNames settings.className b = .ok () ∧ b.defaultTable.phrases = [p] ∧
      p.key = "a  b\n\n " ∧ p.text = "x \n\n\n\ty " :=
    ⟨_, _, rfl, by decide +kernel, rfl, rfl, rfl⟩
  obtain ⟨g, hmade, hdocumented, hmarker⟩ : ∃ g, ofSettings settings = .ok g ∧ g.documented ∧
      '\n' ∉ g.options.missingMarker.display.toList :=
    ⟨_, rfl, rfl, by decide⟩
  obtain ⟨text, hgenerate, -, -, hcrlf⟩ :=
    format_keeps_class hmade hconvert rfl (by decide) hnames hmarker
  obtain ⟨code, warnings, metadata, hrun, hcode, hshows⟩ := hcrlf rfl
  have hp : p ∈ b.defaultTable.phrases := by simp [hphrases]
  have hshown := hshows.texts hdocumented p hp _ b.defaultTable_mem.1 p
    (Table.get?_eq_some_iff.mpr ⟨hp, rfl⟩)
  exact ⟨g, b, text, code, warnings, metadata, hmade, hconvert, hgenerate, hrun, hcode,
    hkey ▸ hshows.keys p hp, htext ▸ hshown⟩

end Generator

end Phrasebook.Dart
