-- SUMMARY: Every line of documentation is a comment, but for the lines of a marker.
import Phrasebook.Proofs.Book.Tables
import Phrasebook.Proofs.Dart.Documentation
import Phrasebook.Proofs.Dart.RenderedClass
import Phrasebook.Proofs.Locale.Subtags

/-!
# Lines of documentation

The documentation of a phrase shows subtags, texts and the marker for a missing
text. A subtag that is read from a tag has no break and a text is shown as a
literal, so that neither leaves the comment. The marker is shown as it is: its
first line ends the comment of its cell, and its other lines are lines of code
unless they are comments themselves.
-/

namespace Phrasebook.Dart

open Text

variable {isBreak : Char → Bool} {d : Char} {cs rest opening closing slashes : List Char}

/-! ## Lines in comments -/

/-- The lines of a text, cut at line feeds and carriage returns. -/
def sourceLines (s : String) : List (List Char) :=
  s.toList.splitOnP fun c => c == '\n' || c == '\r'

/-- Lines that are comments of documentation. -/
def InComments (lines : List (List Char)) : Prop :=
  ∀ line ∈ lines, "  ///".toList <+: line

instance : DecidablePred InComments := fun lines =>
  inferInstanceAs (Decidable (∀ line ∈ lines, "  ///".toList <+: line))

theorem inComments_cut (hd : isBreak d) :
    InComments ((cs ++ d :: rest).splitOnP isBreak) ↔
      InComments (cs.splitOnP isBreak) ∧ InComments (rest.splitOnP isBreak) := by
  rw [List.splitOnP_append_cons _ _ hd]
  exact List.forall_mem_append

theorem inComments_line (hcs : ∀ c ∈ cs, isBreak c = false) :
    InComments (cs.splitOnP isBreak) ↔ "  ///".toList <+: cs := by
  rw [List.splitOnP_eq_singleton hcs]
  exact List.forall_mem_singleton

theorem IsComment.inComments {line : String} (h : IsComment isBreak line) :
    InComments (line.toList.splitOnP isBreak) :=
  (inComments_line h.breakFree).mpr h.slashes

/-- Lines put together are in comments if each of them is. -/
theorem inComments_ofLines (hbreak : isBreak '\n') {lines : List String} (hne : lines ≠ []) :
    InComments ((ofLines lines).toList.splitOnP isBreak) ↔
      ∀ line ∈ lines, InComments (line.toList.splitOnP isBreak) := by
  induction lines with
  | nil => exact absurd rfl hne
  | cons line lines ih =>
    by_cases hnil : lines = []
    · subst hnil
      rw [List.forall_mem_singleton]
      rfl
    · rw [toList_ofLines_cons hnil, inComments_cut hbreak, ih hnil, List.forall_mem_cons]

/-! ## A marker between line ends -/

/-- A text has no break, or it goes on after its first one. -/
theorem first_break (isBreak : Char → Bool) (cs : List Char) :
    (∀ c ∈ cs, isBreak c = false) ∨
      ∃ before d after, cs = before ++ d :: after ∧ (∀ c ∈ before, isBreak c = false) ∧
        isBreak d := by
  cases hfound : cs.find? isBreak with
  | none => exact .inl fun c hc => by simpa using List.find?_eq_none.mp hfound c hc
  | some d =>
    obtain ⟨hd, before, after, rfl, hbefore⟩ := List.find?_eq_some_iff_append.mp hfound
    exact .inr ⟨before, d, after, rfl, fun c hc => by simpa using hbefore c hc, hd⟩

theorem prefix_append_cons_iff (hd : d ∉ slashes) :
    slashes <+: cs ++ d :: rest ↔ slashes <+: cs := by
  induction slashes generalizing cs with
  | nil => simp
  | cons s slashes ih =>
    rw [List.mem_cons, not_or] at hd
    cases cs with
    | nil => simp [List.cons_prefix_cons, Ne.symm hd.1]
    | cons c cs => rw [List.cons_append, List.cons_prefix_cons, List.cons_prefix_cons, ih hd.2]

/-- What closes a cell does not make its last line a comment. -/
theorem inComments_append (hclosing : ∀ c ∈ '<' :: closing, isBreak c = false) (cs : List Char) :
    InComments ((cs ++ '<' :: closing).splitOnP isBreak) ↔ InComments (cs.splitOnP isBreak) := by
  rcases first_break isBreak cs with hline | ⟨before, d, after, rfl, -, hd⟩
  · have hwhole : ∀ c ∈ cs ++ '<' :: closing, isBreak c = false :=
      List.forall_mem_append.mpr ⟨hline, hclosing⟩
    rw [inComments_line hwhole, inComments_line hline, prefix_append_cons_iff (by decide)]
  · rw [List.append_assoc, List.cons_append, inComments_cut hd, inComments_cut hd,
      inComments_append hclosing after]
termination_by cs.length

/-- A text in a cell is in comments if all its lines after the first one are. -/
theorem inComments_cell (hslashes : "  ///".toList <+: opening)
    (hopening : ∀ c ∈ opening, isBreak c = false)
    (hclosing : ∀ c ∈ '<' :: closing, isBreak c = false) (cs : List Char) :
    InComments ((opening ++ cs ++ '<' :: closing).splitOnP isBreak) ↔
      InComments (cs.splitOnP isBreak).tail := by
  rw [inComments_append hclosing]
  rcases first_break isBreak cs with hline | ⟨before, d, after, rfl, hbefore, hd⟩
  · have hwhole : ∀ c ∈ opening ++ cs, isBreak c = false :=
      List.forall_mem_append.mpr ⟨hopening, hline⟩
    rw [inComments_line hwhole, List.splitOnP_eq_singleton hline]
    exact iff_of_true (List.prefix_append_of_prefix hslashes) (by simp [InComments])
  · have hfirst : ∀ c ∈ opening ++ before, isBreak c = false :=
      List.forall_mem_append.mpr ⟨hopening, hbefore⟩
    rw [← List.append_assoc, inComments_cut hd, inComments_line hfirst,
      List.splitOnP_append_cons _ _ hd, List.splitOnP_eq_singleton hbefore]
    exact and_iff_right (List.prefix_append_of_prefix hslashes)

/-! ## Tables -/

/-- A table is in comments if every missing text in it, shown by the marker, is. -/
theorem DocTable.inComments_iff (h : BreaksLines isBreak) {table : DocTable}
    (htags : ∀ r ∈ table.rows, BreakFree isBreak r.tag) :
    InComments ((ofLines table.lines).toList.splitOnP isBreak) ↔
      ∀ r ∈ table.rows, r.text = none → InComments (table.marker.toList.splitOnP isBreak).tail := by
  have hne : table.lines ≠ [] := by simp [DocTable.lines]
  have hcell : ∀ cell : String,
      InComments (("  ///     <td>" ++ cell ++ "</td>").toList.splitOnP isBreak) ↔
        InComments (cell.toList.splitOnP isBreak).tail := by
    intro cell
    have hopening : IsComment isBreak "  ///     <td>" := h.isComment rfl rfl
    have hclosing : BreakFree isBreak "</td>" := h.breakFree rfl
    rw [String.toList_append, String.toList_append]
    exact inComments_cell hopening.slashes hopening.breakFree hclosing cell.toList
  rw [inComments_ofLines h.line_feed hne]
  constructor
  · intro hlines r hr hmissing
    have hmem : "  ///     <td>" ++ r.cell table.marker ++ "</td>" ∈ table.lines := by
      simp only [DocTable.lines, List.mem_append, List.mem_flatMap]
      exact .inl (.inr ⟨r, hr, by simp [DocRow.lines]⟩)
    have hmarker := (hcell _).mp (hlines _ hmem)
    rwa [DocRow.cell, hmissing] at hmarker
  · intro hmarker line hline
    rcases DocTable.isComment_or_cell h htags line hline with hcomment | ⟨r, hr, rfl⟩
    · exact hcomment.inComments
    · cases htext : r.text with
      | none =>
        rw [hcell, DocRow.cell, htext]
        exact hmarker r hr htext
      | some text =>
        have hfree : BreakFree isBreak (r.cell table.marker) :=
          DocRow.breakFree_cell h fun hnone => by rw [htext] at hnone; cases hnone
        exact (h.isComment_cell hfree).inComments

theorem BreaksLines.breakFreeLocale (h : BreaksLines isBreak) {l : Locale} (hl : l.Subtags) :
    BreakFreeLocale isBreak l := by
  have hfree : ∀ s : String, (∀ c ∈ s.toList, NoBreak c) → BreakFree isBreak s :=
    fun s hs c hc => h.eq_false (hs c hc).1 (hs c hc).2
  exact {
    language := hfree _ hl.noBreak_language
    country := fun s hs => hfree s (hl.noBreak_country hs)
    script := fun s hs => hfree s (hl.noBreak_script hs) }

theorem BreaksLines.breakFree_tag (h : BreaksLines isBreak) {l : Locale} (hl : l.IsRead) :
    BreakFree isBreak l.tag :=
  (h.breakFreeLocale hl.subtags).tag h

namespace Generator

/-! ## The documentation of a phrase -/

/-- The rows of a documentation have no text exactly where the tables of the book do not. -/
theorem forall_missing_docTable {g : Generator} {b : Book} {p : Phrase} {q : Prop} :
    (∀ r ∈ (g.docTable b p).rows, r.text = none → q) ↔ (∀ t ∈ b.tables, t.has p.key) ∨ q := by
  have hrow : ∀ t : Table, (t.get? p.key).map Phrase.text = none ↔ ¬ t.has p.key := by
    intro t
    rw [Option.map_eq_none_iff, Table.has, Bool.not_eq_true, Option.isSome_eq_false_iff,
      Option.isNone_iff_eq_none]
  simp only [docTable, List.forall_mem_map, hrow, Book.mem_tablesByTag]
  by_cases hq : q
  · simp [hq]
  · simp [hq]

theorem inComments_docTable_iff {g : Generator} {b : Book} {p : Phrase}
    (hread : ∀ t ∈ b.tables, t.locale.IsRead) :
    InComments (sourceLines (ofLines (g.docTable b p).lines)) ↔
      (∀ t ∈ b.tables, t.has p.key) ∨
        InComments (sourceLines g.options.missingMarker.display).tail := by
  have hbreaks := breaksLines_carriage_return
  have htags : ∀ r ∈ (g.docTable b p).rows, BreakFree (fun c => c == '\n' || c == '\r') r.tag :=
    forall_tag_docTable.mpr fun t ht => hbreaks.breakFree_tag (hread t ht)
  exact (DocTable.inComments_iff hbreaks htags).trans forall_missing_docTable

/-- Where the locales of a book are read from tags, the documentation of a phrase is in comments
exactly if no text is missing or the marker has no line of code after its first line. A marker of
one line has none. -/
theorem documentation_inComments (g : Generator) (b : Book) (p : Phrase)
    (hread : ∀ t ∈ b.tables, t.locale.IsRead) :
    ∃ text, g.renderDocumentation b p = .ok text ∧
      (InComments (sourceLines text) ↔
        (∀ t ∈ b.tables, t.has p.key) ∨
          InComments (sourceLines g.options.missingMarker.display).tail) ∧
      (isOneLine g.options.missingMarker.display → InComments (sourceLines text)) := by
  have hiff := inComments_docTable_iff (g := g) (p := p) hread
  refine ⟨_, g.renderDocumentation_eq b p, hiff, fun hmarker => hiff.mpr (.inr ?_)⟩
  rw [sourceLines, List.splitOnP_eq_singleton (breaksLines_carriage_return.breakFree hmarker)]
  simp [InComments]

theorem documentation_inComments_of_hello :
    let p : Phrase := ⟨"hello", "hello", "Hello,\nworld", []⟩
    let english : Table := ⟨⟨"en", none, none⟩, [p], by decide⟩
    let german : Table := ⟨⟨"de", some "AT", none⟩, [], by decide⟩
    let b : Book := ⟨english.locale, [english, german], ⟨english, List.mem_cons_self, rfl⟩⟩
    (∀ t ∈ b.tables, t.locale.IsRead) ∧
    ∃ text, renderDocumentation ⟨{}, {}⟩ b p = .ok text ∧ InComments (sourceLines text) := by
  intro p english german b
  have hread : ∀ t ∈ b.tables, t.locale.IsRead := by
    intro t ht
    simp only [b, List.mem_cons, List.not_mem_nil, or_false] at ht
    rcases ht with rfl | rfl
    · exact ⟨"en", ⟨english.locale, none⟩, by rfl, rfl⟩
    · exact ⟨"de-at", ⟨german.locale, none⟩, by rfl, rfl⟩
  obtain ⟨text, hrender, -, hline⟩ := documentation_inComments ⟨{}, {}⟩ b p hread
  exact ⟨hread, text, hrender, hline (by decide)⟩

/-- A marker of two lines, which is accepted, puts its second one in front of the accessor as code
if a text is missing. -/
theorem documentation_not_inComments_of_brace :
    let p : Phrase := ⟨"hello", "hello", "Hello", []⟩
    let english : Table := ⟨⟨"en", none, none⟩, [p], by decide⟩
    let german : Table := ⟨⟨"de", none, none⟩, [], by decide⟩
    let b : Book := ⟨english.locale, [english, german], ⟨english, List.mem_cons_self, rfl⟩⟩
    (∀ t ∈ b.tables, t.locale.IsRead) ∧ p ∈ b.defaultTable.phrases ∧
    ∃ options, Options.ofCustom (.value (.obj [("missing_marker", .str "x\n\x7d")])) = .ok options ∧
    ∃ text, renderDocumentation ⟨{}, options⟩ b p = .ok text ∧
      ¬ InComments (sourceLines text) := by
  intro p english german b
  have hread : ∀ t ∈ b.tables, t.locale.IsRead := by
    intro t ht
    simp only [b, List.mem_cons, List.not_mem_nil, or_false] at ht
    rcases ht with rfl | rfl
    · exact ⟨"en", ⟨english.locale, none⟩, by rfl, rfl⟩
    · exact ⟨"de", ⟨german.locale, none⟩, by rfl, rfl⟩
  have hdefault : b.defaultTable = english := rfl
  refine ⟨hread, by rw [hdefault]; exact List.mem_singleton_self p, _, rfl, _,
    renderDocumentation_eq _ b p, ?_⟩
  rw [inComments_docTable_iff hread, not_or]
  exact ⟨by decide, by decide⟩

end Generator

end Phrasebook.Dart
