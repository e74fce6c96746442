-- SUMMARY: The counts of missing texts and of locales are the same wherever a generation counts them.
import Phrasebook.Proofs.Dart.DocumentationLines
import Phrasebook.Proofs.Dart.DocumentationRows
import Phrasebook.Proofs.Dart.LocaleReading
import Phrasebook.Proofs.Generation.Success

/-!
# Counts

Missing texts are counted three times: over the tables for the metadata, over the
tables other than the default one for the warnings, and over the keys where the
documentation shows a marker. The first two agree as the default table has all of
its keys, and no other table of a converted book has its locale. The third one
counts the same pairs of a table and a key the other way round.

Locales are counted by what is written, too: as the items of a list, and as the
rows of every table of documentation.
-/

namespace Phrasebook

open Text

/-! ## Sums -/

theorem sum_map_ite_one {β : Type} (p : β → Bool) (bs : List β) :
    (bs.map fun b => if p b then 1 else 0).sum = bs.countP p := by
  induction bs with
  | nil => rfl
  | cons b bs ih => rw [List.map_cons, List.sum_cons, ih, List.countP_cons, Nat.add_comm]

/-- Pairs that are related are as many, whether the left or the right ones are gone over first. -/
theorem sum_countP_comm {α β : Type} (r : α → β → Bool) (as : List α) (bs : List β) :
    (as.map fun a => bs.countP (r a ·)).sum = (bs.map fun b => as.countP (r · b)).sum := by
  induction as with
  | nil => simp
  | cons a as ih =>
    have hcount : ∀ b, (a :: as).countP (r · b) = as.countP (r · b) + if r a b then 1 else 0 :=
      fun b => List.countP_cons
    simp only [List.map_cons, List.sum_cons, ih, hcount, List.sum_map_add, sum_map_ite_one]
    exact Nat.add_comm _ _

/-- What adds nothing may be left out of a sum. -/
theorem sum_map_filter {α : Type} {p : α → Bool} {f : α → ℕ} {as : List α}
    (h : ∀ a ∈ as, p a = false → f a = 0) : ((as.filter p).map f).sum = (as.map f).sum := by
  induction as with
  | nil => rfl
  | cons a as ih =>
    rw [List.forall_mem_cons] at h
    cases hp : p a with
    | true => simp [hp, ih h.2]
    | false => simp [hp, ih h.2, h.1 hp]

/-! ## Warnings -/

/-- How many texts a warning says are missing. -/
def Warning.missingTexts : Warning → ℕ
  | .missing _ keys => keys.length
  | _ => 0

theorem Table.sum_missingTexts_review (t d : Table) :
    ((t.review d).map Warning.missingTexts).sum = (t.missingKeys d).length := by
  have hplaceholders : ((t.placeholderWarnings d).map Warning.missingTexts).sum = 0 := by
    refine List.sum_eq_zero fun n hn => ?_
    obtain ⟨w, hw, rfl⟩ := List.mem_map.mp hn
    obtain ⟨p, -, hfound⟩ := List.mem_filterMap.mp hw
    split at hfound
    · cases hfound
    · split at hfound
      · cases hfound
      · cases hfound
        rfl
  have hextra : ((if (t.extraKeys d).isEmpty then [] else
      [Warning.extra t.locale (t.extraKeys d)]).map Warning.missingTexts).sum = 0 := by
    split <;> rfl
  have hmissing : ((if (t.missingKeys d).isEmpty then [] else
      [Warning.missing t.locale (t.missingKeys d)]).map Warning.missingTexts).sum =
        (t.missingKeys d).length := by
    split
    case isTrue hempty => simp [List.isEmpty_iff.mp hempty]
    case isFalse => simp [Warning.missingTexts]
  rw [review, List.map_append, List.map_append, List.sum_append, List.sum_append, hmissing, hextra,
    hplaceholders, Nat.add_zero]

namespace Book

variable {b : Book}

theorem missingCount_eq_sum (b : Book) :
    b.missingCount = (b.tables.map fun t => (t.missingKeys b.defaultTable).length).sum :=
  List.length_flatMap

/-- Where no two tables have one locale, the warnings are of as many missing texts as there are. -/
theorem sum_missingTexts_review (hnodup : (b.tables.map Table.locale).Nodup) :
    (b.review.map Warning.missingTexts).sum = b.missingCount := by
  have hself : b.defaultTable.missingKeys b.defaultTable = [] :=
    Table.missingKeys_eq_nil_iff.mpr fun _ => id
  have hdefault : ∀ t ∈ b.tables, (t.locale != b.defaultLocale) = false →
      (t.missingKeys b.defaultTable).length = 0 := by
    intro t ht hlocale
    obtain ⟨hmem, hhome⟩ := b.defaultTable_mem
    have hsame : t.locale = b.defaultTable.locale := by simpa [hhome] using hlocale
    rw [List.inj_on_of_nodup_map hnodup ht hmem hsame, hself]
    rfl
  have hempty : ((if b.defaultTable.phrases.isEmpty then [Warning.noPhrases b.defaultLocale]
      else []).map Warning.missingTexts).sum = 0 := by
    split <;> rfl
  rw [review, List.map_append, List.sum_append, hempty, Nat.zero_add, List.map_flatMap,
    List.flatMap_def, List.sum_flatten, List.map_map, missingCount_eq_sum, ← sum_map_filter hdefault]
  simp only [Function.comp_def, Table.sum_missingTexts_review]

/-- Where no two tables have one locale, there are as many locales as tables. -/
theorem length_locales (hnodup : (b.tables.map Table.locale).Nodup) :
    b.locales.length = b.tables.length := by
  have hperm : b.locales.Perm (b.tables.map Table.locale) := by
    rw [List.perm_ext_iff_of_nodup b.lists_locales.nodup hnodup]
    intro l
    rw [mem_locales, List.mem_map]
  rw [hperm.length_eq, List.length_map]

end Book

/-! ## Documentation -/

namespace Dart

/-- How many rows of a table show the marker in the place of a text. -/
def DocTable.missing (t : DocTable) : ℕ :=
  t.rows.countP (·.text.isNone)

namespace Generator

variable {g : Generator} {b : Book}

theorem length_rows_docTable (g : Generator) (b : Book) (p : Phrase) :
    (g.docTable b p).rows.length = b.tables.length := by
  rw [docTable, List.length_map, b.tablesByTag_perm.length_eq]

theorem missing_docTable (g : Generator) (b : Book) (p : Phrase) :
    (g.docTable b p).missing = b.tables.countP (fun t => !t.has p.key) := by
  rw [docTable, DocTable.missing, List.countP_map, b.tablesByTag_perm.countP_eq]
  refine List.countP_congr fun t _ => ?_
  simp [Table.has]

/-- The documentation of all phrases shows the marker once for every missing text. -/
theorem sum_missing_docTable (g : Generator) (b : Book) :
    (b.defaultTable.phrases.map fun p => (g.docTable b p).missing).sum = b.missingCount := by
  have hkeys : ∀ t : Table, (t.missingKeys b.defaultTable).length =
      b.defaultTable.phrases.countP (fun p => !t.has p.key) := by
    intro t
    rw [Table.missingKeys, ← List.countP_eq_length_filter, Table.keys, List.countP_map]
    rfl
  simp only [missing_docTable, Book.missingCount_eq_sum, hkeys]
  exact sum_countP_comm (fun (p : Phrase) (t : Table) => !t.has p.key) _ _

/-- The rows of a documentation are found in its text, and those with a missing text among them, if
the marker is one line that no literal is. -/
theorem exists_rows_of_documentation (hread : ∀ t ∈ b.tables, t.locale.IsRead)
    (hmarker : '\n' ∉ g.options.missingMarker.display.toList)
    (hquote : g.options.missingMarker.display.toList.head? ≠ some '"') (p : Phrase) :
    ∃ rows, readDocumentation (ofLines (g.docTable b p).lines) = some rows ∧
      rows.length = b.tables.length ∧
      rows.countP (·.cell = g.options.missingMarker.display) = (g.docTable b p).missing := by
  have hbreaks := breaksLines_line_feed
  have htags : ∀ r ∈ (g.docTable b p).rows, BreakFree (· == '\n') r.tag :=
    forall_tag_docTable.mpr fun t ht => hbreaks.breakFree_tag (hread t ht)
  refine ⟨_, readDocumentation_lines htags (breakFree_of_not_mem hmarker), ?_, ?_⟩
  · rw [List.length_map, length_rows_docTable]
  · rw [DocTable.missing, docTable, List.map_map, List.countP_map, List.countP_map]
    refine List.countP_congr fun t _ => ?_
    have hmissing := (shows_docRow hquote p t).missing.trans Table.get?_eq_none_iff_forall.symm
    simpa [docRow] using hmissing

end Generator

/-! ## Generation -/

namespace Generator

variable {g : Generator} {b : Book}

/-- Whatever is counted in more than one way when the class of a converted book is generated comes
to the same. The texts that the metadata say are missing are as many as the rows of documentation
that show the marker, and as many as the warnings say. The locales are as many as the supported ones
that are written, and as the rows of the documentation of every phrase. -/
theorem counts_agree {style : Naming.Style} {names : Naming.Allocator} {document : Json}
    {code : String} {warnings : List Warning} {metadata : Metadata}
    (hconvert : (Document.convert style names document).result = .ok b)
    (hrun : (g.toGenerator.run b).1 = .success code warnings metadata) :
    (b.defaultTable.phrases.map fun p => (g.docTable b p).missing).sum = metadata.missingTexts ∧
    (warnings.map Warning.missingTexts).sum = metadata.missingTexts ∧
    (∃ text locales, renderLocales b = .ok text ∧ readSupportedLocales text = some locales ∧
      locales.length = metadata.localeCount) ∧
    ∀ p ∈ b.defaultTable.phrases,
      (g.docTable b p).rows.length = metadata.localeCount ∧
      ('\n' ∉ g.options.missingMarker.display.toList →
        g.options.missingMarker.display.toList.head? ≠ some '"' →
        ∃ text rows, g.renderDocumentation b p = .ok text ∧ readDocumentation text = some rows ∧
          rows.length = metadata.localeCount ∧
          rows.countP (·.cell = g.options.missingMarker.display) = (g.docTable b p).missing) := by
  obtain ⟨hnodup, hread⟩ := Document.locales_of_convert hconvert
  obtain ⟨className, ending, hyields⟩ := exists_yields_of_run hrun
  have hmissing : metadata.missingTexts = b.missingCount := by rw [hyields.metadata]; rfl
  have hlocales : metadata.localeCount = b.tables.length := by
    rw [← b.length_locales hnodup, hyields.metadata]
    rfl
  have hclassName : ((if isIdentifier className then [] else [Warning.className className]).map
      Warning.missingTexts).sum = 0 := by
    split <;> rfl
  refine ⟨(sum_missing_docTable g b).trans hmissing.symm, ?_, ?_, fun p _ => ⟨?_, ?_⟩⟩
  · rw [hyields.warnings, List.map_append, List.sum_append, hclassName,
      b.sum_missingTexts_review hnodup, hmissing, Nat.add_zero]
  · have hne : b.locales ≠ [] := List.cons_ne_nil _ _
    refine ⟨_, _, renderLocales_eq b, readSupportedLocales_lines hne, ?_⟩
    rw [List.length_map, b.length_locales hnodup, hlocales]
  · rw [length_rows_docTable, hlocales]
  · intro hmarker hquote
    obtain ⟨rows, hrows, hlength, hcount⟩ := exists_rows_of_documentation hread hmarker hquote p
    exact ⟨_, rows, g.renderDocumentation_eq b p, hrows, hlength.trans hlocales.symm, hcount⟩

/-- A book that lacks one text, under the default settings. -/
theorem counts_agree_of_greeting :
    let document : Json := .obj [("default_locale", .str "en"), ("locales", .obj [
      ("de", .obj [("hello", .str "Hallo")]),
      ("en", .obj [("hello", .str "Hello"), ("bye", .str "Bye")])])]
    ∃ (g : Generator) (b : Book) (code : String) (warnings : List Warning) (metadata : Metadata),
      (Document.convert .camel (accessorNamesFor "I18n") document).result = .ok b ∧
      (g.toGenerator.run b).1 = .success code warnings metadata ∧
      (b.defaultTable.phrases.map fun p => (g.docTable b p).missing).sum = 1 ∧
      (warnings.map Warning.missingTexts).sum = 1 ∧ metadata.missingTexts = 1 ∧
      (∃ text locales, renderLocales b = .ok text ∧ readSupportedLocales text = some locales ∧
        locales.length = 2) ∧
      ∀ p ∈ b.defaultTable.phrases, (g.docTable b p).rows.length = 2 := by
  intro document
  obtain ⟨g, hprepares⟩ : ∃ g, Registry.Prepares {} (.value .null) g "I18n" "\n" :=
    ⟨⟨_, _⟩, ⟨rfl, rfl, rfl, rfl⟩⟩
  obtain ⟨b, hconvert, hnames, hone, htwo⟩ : ∃ b,
      (Document.convert .camel (accessorNamesFor "I18n") document).result = .ok b ∧
      checkNames (.str "I18n") b = .ok () ∧ b.missingCount = 1 ∧ b.locales.length = 2 :=
    ⟨_, rfl, by decide +kernel, rfl, rfl⟩
  obtain ⟨warnings, hrun⟩ := hprepares.run_of_names hnames
  have hrun := congrArg Prod.fst hrun
  have hmissing : (g.toGenerator.metadata b).missingTexts = 1 := hone
  have hlocales : (g.toGenerator.metadata b).localeCount = 2 := htwo
  obtain ⟨hrows, hwarned, hwritten, hshown⟩ := counts_agree hconvert hrun
  rw [hmissing] at hrows hwarned
  rw [hlocales] at hwritten hshown
  exact ⟨g, b, _, warnings, _, hconvert, hrun, hrows, hwarned, hmissing, hwritten,
    fun p hp => (hshown p hp).1⟩

end Generator

end Dart

end Phrasebook
