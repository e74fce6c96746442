-- SUMMARY: The rows of documentation: one for every table of the book, in order, with its text.
import Mathlib.Data.List.Forall2
import Phrasebook.Proofs.Book.Tables
import Phrasebook.Proofs.Dart.MemberReading
import Phrasebook.Proofs.Dart.RenderedClass

/-!
# Rows of documentation

A reader finds the rows of a documentation from its lines, without knowing the
book. What it finds is a row for each table: first that of the default one, then
those of the others in the order of their tags. A row shows the text of a phrase
as a literal, or else the marker, and the two can be told apart if the marker does
not begin with a quote. Where the tags are distinct, the order in which a book has
its tables is not seen.
-/

namespace Phrasebook.Dart

open Text

/-! ## The reader -/

/-- A row as it is shown. -/
structure ShownRow where
  tag : String
  cell : String
  deriving DecidableEq, Repr

/-- What a line has between two texts. -/
def readBetween (opening closing : String) (line : List Char) : Option String := do
  return String.ofList (← (← line.dropPrefix? opening.toList).dropSuffix? closing.toList)

/-- The lines before the first row. -/
def tableHead : List String :=
  ["  ///",
   "  /// <table style=\"width:100%\">",
   "  ///   <tr>",
   "  ///     <th>Locale</th>",
   "  ///     <th>Translation</th>",
   "  ///   </tr>"]

/-- The lines after the last row. -/
def tableTail : List String :=
  ["  ///  </table>", "  ///"]

/-- Read rows, of four lines each, up to the lines after the last one. -/
def readRows (lines : List (List Char)) : Option (List ShownRow) :=
  if lines = tableTail.map String.toList then some []
  else
    match lines with
    | first :: tagged :: shown :: last :: rest => do
      guard (first = "  ///   <tr>".toList)
      let tag ← readBetween "  ///     <td style=\"width:60px;\">" "</td>" tagged
      let cell ← readBetween "  ///     <td>" "</td>" shown
      guard (last = "  ///   </tr>".toList)
      return { tag, cell } :: (← readRows rest)
    | _ => none

/-- Read the rows of a documentation. -/
def readDocumentation (text : String) : Option (List ShownRow) := do
  readRows (← (split '\n' text.toList).dropPrefix? (tableHead.map String.toList))

/-! ## Reading tables -/

theorem readBetween_append (opening s closing : String) :
    readBetween opening closing (opening ++ s ++ closing).toList = some s := by
  have hlist : (opening ++ s ++ closing).toList =
      opening.toList ++ (s.toList ++ closing.toList) := by
    simp
  have hsuffix : (s.toList ++ closing.toList).dropSuffix? closing.toList = some s.toList :=
    List.dropSuffix?_eq_some_iff.mpr ⟨closing.toList, rfl, BEq.rfl⟩
  rw [readBetween, hlist, dropPrefix?_append_self]
  simp [hsuffix]

/-- A row as a table of documentation shows it. -/
def DocRow.shown (marker : String) (r : DocRow) : ShownRow :=
  ⟨r.tag, r.cell marker⟩

theorem readRows_lines (marker : String) (rows : List DocRow) :
    readRows ((rows.flatMap (·.lines marker) ++ tableTail).map String.toList) =
      some (rows.map (DocRow.shown marker)) := by
  induction rows with
  | nil =>
    unfold readRows
    exact if_pos rfl
  | cons r rows ih =>
    have hlines : ((r :: rows).flatMap (·.lines marker) ++ tableTail).map String.toList =
        "  ///   <tr>".toList ::
          ("  ///     <td style=\"width:60px;\">" ++ r.tag ++ "</td>").toList ::
          ("  ///     <td>" ++ r.cell marker ++ "</td>").toList :: "  ///   </tr>".toList ::
          (rows.flatMap (·.lines marker) ++ tableTail).map String.toList := by
      simp [DocRow.lines]
    rw [hlines, readRows, if_neg (by simp [tableTail])]
    simp only [readBetween_append, ih]
    rfl

theorem readDocumentation_lines {table : DocTable}
    (htags : ∀ r ∈ table.rows, BreakFree (· == '\n') r.tag)
    (hmarker : BreakFree (· == '\n') table.marker) :
    readDocumentation (ofLines table.lines) =
      some (table.rows.map (DocRow.shown table.marker)) := by
  have hlines : table.lines =
      tableHead ++ (table.rows.flatMap (·.lines table.marker) ++ tableTail) :=
    List.append_assoc _ _ _
  have hne : table.lines ≠ [] := by simp [DocTable.lines]
  have hcomments := DocTable.isComment_of_mem_lines breaksLines_line_feed htags hmarker
  have hpieces := split_ofLines hne fun line hline => (hcomments line hline).breakFree.not_mem
  rw [readDocumentation, hpieces, hlines, List.map_append, dropPrefix?_append_self]
  exact readRows_lines table.marker table.rows

/-! ## What a row shows -/

/-- A row for a table and a key: the tag of the table's locale, and either a literal of exactly the
texts that the table has for the key, or the marker exactly if it has none. -/
structure Shows (marker key : String) (t : Table) (r : ShownRow) : Prop where
  tag : r.tag = t.locale.tag
  text : ∀ text : String, readLiteral r.cell.toList = .ok (text.toList, []) ↔
    ∃ q ∈ t.phrases, q.key = key ∧ q.text = text
  missing : r.cell = marker ↔ ∀ q ∈ t.phrases, q.key ≠ key

theorem shows_docRow {marker : String} (hquote : marker.toList.head? ≠ some '"') (p : Phrase)
    (t : Table) : Shows marker p.key t ((Generator.docRow p t).shown marker) := by
  have hmarker := readLiteral_ne_ok hquote
  cases hget : t.get? p.key with
  | none =>
    have hcell : ((Generator.docRow p t).shown marker).cell = marker := by
      simp [DocRow.shown, Generator.docRow, DocRow.cell, hget]
    have hlacks := Table.get?_eq_none_iff_forall.mp hget
    refine ⟨rfl, fun text => ?_, iff_of_true hcell hlacks⟩
    rw [hcell]
    refine iff_of_false (hmarker _) ?_
    rintro ⟨q, hq, hkey, -⟩
    exact hlacks q hq hkey
  | some q =>
    have hcell : ((Generator.docRow p t).shown marker).cell = literal q.text := by
      simp [DocRow.shown, Generator.docRow, DocRow.cell, hget]
    have hhas := Table.get?_eq_some_iff.mp hget
    refine ⟨rfl, fun text => ?_, iff_of_false ?_ fun hlacks => hlacks q hhas.1 hhas.2⟩
    · rw [hcell, readLiteral_literal]
      constructor
      · intro hread
        have htext : q.text = text := by simpa [String.toList_inj] using hread
        exact ⟨q, hhas.1, hhas.2, htext⟩
      · -- keys are distinct, so that it is the one phrase of its key
        rintro ⟨q', hq', hkey, rfl⟩
        have hsame : t.get? p.key = some q' := Table.get?_eq_some_iff.mpr ⟨hq', hkey⟩
        rw [Option.some.inj (hget.symm.trans hsame)]
    · -- the marker would be read as a literal
      intro hsame
      rw [hcell] at hsame
      exact hmarker _ (hsame ▸ readLiteral_literal q.text)

namespace Generator

/-! ## The documentation of a phrase -/

variable {g : Generator} {b b' : Book}

theorem docTable_of_tables (htables : b'.tablesByTag = b.tablesByTag) (p : Phrase) :
    g.docTable b' p = g.docTable b p := by
  rw [docTable, docTable, htables]

theorem renderAccessor_of_tables (htables : b'.tablesByTag = b.tablesByTag) (p : Phrase) :
    g.renderAccessor b' p = g.renderAccessor b p := by
  rw [renderAccessor_eq, renderAccessor_eq, accessor, accessor, docTable_of_tables htables]

/-- The documentation of a phrase has a row for every table, in which the table's text or the marker
is shown: first for the default table, then for the others, sorted by their tags. The order of
tables with distinct tags is seen neither in it nor in the accessors. -/
theorem documentation_rows (g : Generator) (b : Book) (p : Phrase)
    (htags : ∀ t ∈ b.tables, '\n' ∉ t.locale.tag.toList)
    (hmarker : '\n' ∉ g.options.missingMarker.display.toList)
    (hquote : g.options.missingMarker.display.toList.head? ≠ some '"') :
    (∃ text before after others rows,
      g.renderDocumentation b p = .ok text ∧ readDocumentation text = some rows ∧
      b.tables = before ++ b.defaultTable :: after ∧
      (∀ t ∈ before, t.locale ≠ b.defaultLocale) ∧
      SortedBy (·.locale.tag) (before ++ after) others ∧
      List.Forall₂ (Shows g.options.missingMarker.display p.key) (b.defaultTable :: others) rows) ∧
    ∀ b' : Book, b'.defaultLocale = b.defaultLocale → b'.tables.Perm b.tables →
      (b.tables.map (·.locale.tag)).Nodup →
      g.renderDocumentation b' p = g.renderDocumentation b p ∧
      b'.defaultTable.phrases.mapM (g.renderAccessor b') =
        b.defaultTable.phrases.mapM (g.renderAccessor b) := by
  constructor
  · obtain ⟨before, after, htables, hbefore, hothers⟩ := b.exists_around_defaultTable
    have hrows : ∀ r ∈ (g.docTable b p).rows, BreakFree (· == '\n') r.tag :=
      forall_tag_docTable.mpr fun t ht => breakFree_of_not_mem (htags t ht)
    have hsorted := sortedBy_sortBy (·.locale.tag) b.otherTables
    rw [hothers] at hsorted
    refine ⟨_, before, after, _, _, g.renderDocumentation_eq b p,
      readDocumentation_lines hrows (breakFree_of_not_mem hmarker), htables, hbefore, hsorted, ?_⟩
    rw [← hothers, ← Book.tablesByTag, docTable, List.map_map, List.forall₂_map_right_iff,
      List.forall₂_same]
    exact fun t _ => shows_docRow hquote p t
  · intro b' hlocale hperm hnodup
    have htables := Book.tablesByTag_of_perm hlocale hperm hnodup
    have hdefault : b'.defaultTable = b.defaultTable := (List.cons.inj htables).1
    constructor
    · rw [renderDocumentation_eq, renderDocumentation_eq, docTable_of_tables htables]
    · have haccessor : g.renderAccessor b' = g.renderAccessor b :=
        funext fun q => renderAccessor_of_tables htables q
      rw [hdefault, haccessor]

/-- Three tables in two orders, one of them without the text. -/
theorem documentation_rows_of_hello :
    let p : Phrase := ⟨"hello", "hello", "Hello,\n\"you\"", []⟩
    let english : Table := ⟨⟨"en", none, none⟩, [p], by decide⟩
    let german : Table := ⟨⟨"de", some "AT", none⟩, [{ p with text := "Hallo" }], by decide⟩
    let french : Table := ⟨⟨"fr", none, none⟩, [], by decide⟩
    let b : Book := ⟨english.locale, [french, english, german], ⟨english, by simp, rfl⟩⟩
    let b' : Book := ⟨english.locale, [german, english, french], ⟨english, by simp, rfl⟩⟩
    let g : Generator := ⟨{}, {}⟩
    (∀ t ∈ b.tables, '\n' ∉ t.locale.tag.toList) ∧
    '\n' ∉ g.options.missingMarker.display.toList ∧
    g.options.missingMarker.display.toList.head? ≠ some '"' ∧
    (b.tables.map (·.locale.tag)).Nodup ∧
    ∃ text rows, g.renderDocumentation b p = .ok text ∧ readDocumentation text = some rows ∧
      rows.length = 3 ∧ g.renderDocumentation b' p = .ok text := by
  intro p english german french b b' g
  have htags : ∀ t ∈ b.tables, '\n' ∉ t.locale.tag.toList := by
    intro t ht
    simp only [b, List.mem_cons, List.not_mem_nil, or_false] at ht
    rcases ht with rfl | rfl | rfl <;> decide
  have hmarker : '\n' ∉ g.options.missingMarker.display.toList := by decide
  have hquote : g.options.missingMarker.display.toList.head? ≠ some '"' := by decide
  have hnodup : (b.tables.map (·.locale.tag)).Nodup := by decide
  obtain ⟨⟨text, before, after, others, rows, hrender, hread, htables, -, hsorted, hrows⟩, hperm⟩ :=
    documentation_rows g b p htags hmarker hquote
  have hlength : rows.length = b.tables.length := by
    have hothers := hsorted.perm.length_eq
    rw [List.length_append] at hothers
    rw [← hrows.length_eq, htables, List.length_append, List.length_cons, List.length_cons, hothers]
    omega
  have hreversed : b'.tables.Perm b.tables := List.reverse_perm b.tables
  refine ⟨htags, hmarker, hquote, hnodup, text, rows, hrender, hread, hlength, ?_⟩
  rw [(hperm b' rfl hreversed hnodup).1, hrender]

end Generator

end Phrasebook.Dart
