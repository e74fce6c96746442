-- SUMMARY: The texts of a book stand in comments of its class, and the code around them has none.
import Mathlib.Data.List.Basic
import Phrasebook.Dart.Generator
import Phrasebook.Proofs.Book.Tables
import Phrasebook.Proofs.Dart.LiteralReading
import Phrasebook.Proofs.Dart.SourceLines

/-!
# Documentation

The texts of a book stand in a class only as literals in documentation comments.
Where no subtag of a locale and no marker breaks a line, every line of a
documentation table is a comment, so that a class without its comments is the
class that is generated without documentation. What is left of two books that
differ only in their texts is therefore the same code.
-/

namespace Phrasebook.Dart

open Text

/-! ## Breaks -/

/-- The characters at which the lines of code end: line feeds, and possibly carriage returns. -/
structure BreaksLines (isBreak : Char → Bool) : Prop where
  line_feed : isBreak '\n'
  only : ∀ c, isBreak c → c = '\n' ∨ c = '\r'

theorem breaksLines_line_feed : BreaksLines (· == '\n') :=
  ⟨by decide, fun _ hc => .inl (by simpa using hc)⟩

theorem breaksLines_carriage_return : BreaksLines fun c => c == '\n' || c == '\r' :=
  ⟨by decide, fun _ hc => by simpa using hc⟩

/-- Whether a string has neither a line feed nor a carriage return. -/
def isOneLine (s : String) : Bool :=
  s.toList.all fun c => c != '\n' && c != '\r'

/-- A string that is no more than one line. -/
def BreakFree (isBreak : Char → Bool) (s : String) : Prop :=
  ∀ c ∈ s.toList, isBreak c = false

/-- A locale none of whose subtags breaks a line. -/
structure BreakFreeLocale (isBreak : Char → Bool) (l : Locale) : Prop where
  language : BreakFree isBreak l.language
  country : ∀ s ∈ l.country, BreakFree isBreak s
  script : ∀ s ∈ l.script, BreakFree isBreak s

variable {isBreak : Char → Bool} {s t : String}

theorem BreaksLines.eq_false (h : BreaksLines isBreak) {c : Char} (hfeed : c ≠ '\n')
    (hreturn : c ≠ '\r') : isBreak c = false := by
  by_contra hbreak
  rw [Bool.not_eq_false] at hbreak
  exact (h.only c hbreak).elim hfeed hreturn

theorem BreaksLines.breakFree (h : BreaksLines isBreak) {s : String} (hs : isOneLine s) :
    BreakFree isBreak s := by
  intro c hc
  rw [isOneLine, List.all_eq_true] at hs
  have hne := hs c hc
  rw [Bool.and_eq_true, bne_iff_ne, bne_iff_ne] at hne
  exact h.eq_false hne.1 hne.2

theorem BreakFree.not_mem (h : BreakFree (· == '\n') s) : '\n' ∉ s.toList := by
  intro hmem
  simpa using h _ hmem

theorem breakFree_of_not_mem (h : '\n' ∉ s.toList) : BreakFree (· == '\n') s := by
  intro c hc
  rw [beq_eq_false_iff_ne]
  rintro rfl
  exact h hc

theorem BreakFree.append (hs : BreakFree isBreak s) (ht : BreakFree isBreak t) :
    BreakFree isBreak (s ++ t) := by
  intro c hc
  rw [String.toList_append, List.mem_append] at hc
  exact hc.elim (hs c) (ht c)

theorem BreakFree.between (hs : BreakFree isBreak s) (h : BreaksLines isBreak)
    {opening closing : String} (hopening : isOneLine opening) (hclosing : isOneLine closing) :
    BreakFree isBreak (opening ++ s ++ closing) :=
  ((h.breakFree hopening).append hs).append (h.breakFree hclosing)

theorem BreakFree.joinStrings {sep : String} (hsep : BreakFree isBreak sep) {parts : List String}
    (hparts : ∀ s ∈ parts, BreakFree isBreak s) : BreakFree isBreak (joinStrings sep parts) :=
  joinStrings_induction (by simp [BreakFree]) BreakFree.append hsep hparts

/-- No character of a literal breaks a line, whatever the text is. -/
theorem BreaksLines.breakFree_literal (h : BreaksLines isBreak) (s : String) :
    BreakFree isBreak (literal s) := by
  have hescape : ∀ c d, d ∈ escapeChar c → (d != '\n' && d != '\r') := by
    intro c d hd
    unfold escapeChar at hd
    split at hd
    case h_7 hlf hcr htab =>
      rw [List.mem_singleton] at hd
      subst hd
      rw [Bool.and_eq_true, bne_iff_ne, bne_iff_ne]
      exact ⟨hlf, hcr⟩
    all_goals
      simp only [List.mem_cons, List.not_mem_nil, or_false] at hd
      rcases hd with rfl | rfl <;> rfl
  refine h.breakFree (List.all_eq_true.mpr fun d hd => ?_)
  rw [toList_literal, literalChars, List.mem_cons, List.mem_append, List.mem_singleton] at hd
  rcases hd with rfl | hd | rfl
  · rfl
  · obtain ⟨c, -, hd⟩ := List.mem_flatMap.mp hd
    exact hescape c d hd
  · rfl

theorem BreakFreeLocale.tag {l : Locale} (h : BreaksLines isBreak)
    (hl : BreakFreeLocale isBreak l) : BreakFree isBreak l.tag := by
  refine BreakFree.joinStrings (h.breakFree rfl) ?_
  intro s hs
  simp only [List.cons_append, List.mem_cons, List.mem_append, Option.mem_toList, Locale.filled,
    Option.filter_eq_some_iff] at hs
  rcases hs with rfl | hs | hs
  · exact hl.language
  · exact hl.script s hs.1
  · exact hl.country s hs.1

/-! ## Comments -/

/-- Whether the first characters of a line that are not blank are three slashes. -/
def isDocumentation (line : List Char) : Bool :=
  ['/', '/', '/'].isPrefixOf (line.dropWhile isBlank)

/-- Code without its lines of documentation. -/
def withoutDocumentation (isBreak : Char → Bool) (code : List Char) : List Char :=
  dropLines isBreak isDocumentation code

/-- A line that is a documentation comment as a whole. -/
structure IsComment (isBreak : Char → Bool) (line : String) : Prop where
  slashes : "  ///".toList <+: line.toList
  breakFree : BreakFree isBreak line

theorem isDocumentation_of_slashes {line : List Char} (h : "  ///".toList <+: line) :
    isDocumentation line := by
  obtain ⟨rest, rfl⟩ := h
  rfl

theorem IsComment.withoutDocumentation_eq {line : String} (hbreak : isBreak '\n')
    (h : IsComment isBreak line) : withoutDocumentation isBreak (line.toList ++ ['\n']) = [] :=
  dropLines_line h.breakFree hbreak
    (isDocumentation_of_slashes (h.slashes.trans (List.prefix_append _ _)))

/-- A comment that is the same for all texts. -/
theorem BreaksLines.isComment (h : BreaksLines isBreak) {line : String}
    (hslashes : "  ///".toList.isPrefixOf line.toList) (hline : isOneLine line) :
    IsComment isBreak line :=
  ⟨List.isPrefixOf_iff_prefix.mp hslashes, h.breakFree hline⟩

theorem IsComment.append {line : String} (h : IsComment isBreak line) (hs : BreakFree isBreak s) :
    IsComment isBreak (line ++ s) := by
  refine ⟨?_, h.breakFree.append hs⟩
  rw [String.toList_append]
  exact h.slashes.trans (List.prefix_append _ _)

/-- Every line of a table that does not show a text or a marker is a comment, if no tag breaks
lines. -/
theorem DocTable.isComment_or_cell (h : BreaksLines isBreak) {table : DocTable}
    (htags : ∀ r ∈ table.rows, BreakFree isBreak r.tag) :
    ∀ line ∈ table.lines, IsComment isBreak line ∨
      ∃ r ∈ table.rows, line = "  ///     <td>" ++ r.cell table.marker ++ "</td>" := by
  have hrow : ∀ r ∈ table.rows, ∀ line ∈ r.lines table.marker, IsComment isBreak line ∨
      line = "  ///     <td>" ++ r.cell table.marker ++ "</td>" := by
    intro r hr line hline
    simp only [DocRow.lines, List.mem_cons, List.not_mem_nil, or_false] at hline
    rcases hline with rfl | rfl | rfl | rfl
    · exact .inl (h.isComment rfl rfl)
    · exact .inl (((h.isComment rfl rfl).append (htags r hr)).append (h.breakFree rfl))
    · exact .inr rfl
    · exact .inl (h.isComment rfl rfl)
  intro line hline
  rw [DocTable.lines, List.mem_append, List.mem_append, List.mem_flatMap] at hline
  rcases hline with (hline | ⟨r, hr, hline⟩) | hline
  · simp only [List.mem_cons, List.not_mem_nil, or_false] at hline
    rcases hline with rfl | rfl | rfl | rfl | rfl | rfl <;>
      exact .inl (h.isComment rfl rfl)
  · exact (hrow r hr line hline).imp_right fun heq => ⟨r, hr, heq⟩
  · simp only [List.mem_cons, List.not_mem_nil, or_false] at hline
    rcases hline with rfl | rfl <;> exact .inl (h.isComment rfl rfl)

theorem DocRow.breakFree_cell (h : BreaksLines isBreak) {r : DocRow} {marker : String}
    (hmarker : r.text = none → BreakFree isBreak marker) : BreakFree isBreak (r.cell marker) := by
  unfold DocRow.cell
  cases htext : r.text with
  | some text => exact h.breakFree_literal text
  | none => exact hmarker htext

theorem BreaksLines.isComment_cell (h : BreaksLines isBreak) {cell : String}
    (hcell : BreakFree isBreak cell) : IsComment isBreak ("  ///     <td>" ++ cell ++ "</td>") :=
  ((h.isComment rfl rfl).append hcell).append (h.breakFree rfl)

/-- Every line of a table is a comment if neither its tags nor its marker break lines. -/
theorem DocTable.isComment_of_mem_lines (h : BreaksLines isBreak) {table : DocTable}
    (htags : ∀ r ∈ table.rows, BreakFree isBreak r.tag)
    (hmarker : BreakFree isBreak table.marker) :
    ∀ line ∈ table.lines, IsComment isBreak line := by
  intro line hline
  rcases DocTable.isComment_or_cell h htags line hline with hcomment | ⟨r, -, rfl⟩
  · exact hcomment
  · exact h.isComment_cell (DocRow.breakFree_cell h fun _ => hmarker)

/-! ## The class without documentation -/

/-- What is left of lines without those of documentation. -/
def codeOf (isBreak : Char → Bool) (lines : List String) : List Char :=
  lines.flatMap fun line => withoutDocumentation isBreak (line.toList ++ ['\n'])

theorem codeOf_append (lines more : List String) :
    codeOf isBreak (lines ++ more) = codeOf isBreak lines ++ codeOf isBreak more :=
  List.flatMap_append

theorem codeOf_flatMap {α : Type} (as : List α) (f : α → List String) :
    codeOf isBreak (as.flatMap f) = as.flatMap fun a => codeOf isBreak (f a) := by
  rw [codeOf, List.flatMap_assoc]
  rfl

theorem codeOf_comments (hbreak : isBreak '\n') {lines : List String}
    (h : ∀ line ∈ lines, IsComment isBreak line) : codeOf isBreak lines = [] :=
  List.flatMap_eq_nil_iff.mpr fun line hline => (h line hline).withoutDocumentation_eq hbreak

/-- An accessor without its documentation. -/
def Accessor.bare (a : Accessor) : Accessor :=
  { a with documentation := none }

/-- A class without documentation. -/
def ClassSource.bare (c : ClassSource) : ClassSource :=
  { c with
    accessors := c.accessors.map Accessor.bare
    dispatch := { c.dispatch with documented := false } }

theorem ClassSource.withoutDocumentation_text (hbreak : isBreak '\n') (c : ClassSource) :
    withoutDocumentation isBreak c.text.toList = codeOf isBreak c.lines := by
  have hne : c.lines ≠ [] := by simp [ClassSource.lines]
  have hlines : c.text.toList = (c.lines.map String.toList).flatMap (· ++ ['\n']) := by
    have hbreak : "\n".toList = ['\n'] := rfl
    rw [ClassSource.text, String.toList_append, hbreak, toList_ofLines_append_break hne, endLines,
      List.flatMap_map]
  rw [hlines, withoutDocumentation, dropLines_flatMap hbreak, List.flatMap_map]
  rfl

theorem Accessor.codeOf_lines (hbreak : isBreak '\n') {a : Accessor}
    (h : ∀ table ∈ a.documentation, ∀ line ∈ table.lines, IsComment isBreak line) :
    codeOf isBreak a.lines = codeOf isBreak a.bare.lines := by
  cases hdoc : a.documentation with
  | none =>
    have hbare : a.bare = a := by rw [Accessor.bare, ← hdoc]
    rw [hbare]
  | some table =>
    have htable := codeOf_comments hbreak (h table (by simp [hdoc]))
    simp only [Accessor.lines, hdoc, codeOf_append, htable, List.nil_append]
    rfl

theorem BreaksLines.isComment_of_mem_switchComments (h : BreaksLines isBreak) :
    ∀ line ∈ switchComments, IsComment isBreak line := by
  intro line hline
  simp only [switchComments, List.mem_cons, List.not_mem_nil, or_false] at hline
  rcases hline with rfl | rfl | rfl <;> exact h.isComment rfl rfl

theorem Dispatch.codeOf_lines (h : BreaksLines isBreak) (d : Dispatch) :
    codeOf isBreak d.lines = codeOf isBreak { d with documented := false }.lines := by
  have hcomments := codeOf_comments h.line_feed h.isComment_of_mem_switchComments
  have hbare : codeOf isBreak (if d.documented then switchComments else []) = [] := by
    split
    · exact hcomments
    · rfl
  rw [d.lines_eq, codeOf_append, hbare, Dispatch.lines_eq]
  rfl

/-- The text of a class without its lines of documentation is that of the bare class, if all lines
of its tables are comments. -/
theorem ClassSource.withoutDocumentation_eq_bare (h : BreaksLines isBreak) {c : ClassSource}
    (hdoc : ∀ a ∈ c.accessors, ∀ table ∈ a.documentation,
      ∀ line ∈ table.lines, IsComment isBreak line) :
    withoutDocumentation isBreak c.text.toList = codeOf isBreak c.bare.lines := by
  have haccessors : codeOf isBreak (c.accessors.flatMap fun a => a.lines ++ [""]) =
      codeOf isBreak (c.bare.accessors.flatMap fun a => a.lines ++ [""]) := by
    rw [codeOf_flatMap, codeOf_flatMap, ClassSource.bare, List.flatMap_map]
    refine List.flatMap_congr fun a ha => ?_
    rw [codeOf_append, codeOf_append, a.codeOf_lines h.line_feed (hdoc a ha)]
  rw [c.withoutDocumentation_text h.line_feed, ClassSource.lines, ClassSource.lines]
  simp only [codeOf_append, haccessors, c.dispatch.codeOf_lines h]
  rfl

namespace Generator

/-! ## The documentation of a phrase -/

variable {g : Generator} {b : Book} {p : Phrase}

/-- An accessor is documented by the texts of all tables, if by any. -/
theorem docTable_eq_of_mem {table : DocTable} (h : table ∈ (g.accessor b p).documentation) :
    g.docTable b p = table := by
  simp only [accessor, Option.mem_def] at h
  split at h
  · exact Option.some.inj h
  · cases h

/-- The tags that a documentation shows are those of the tables of the book. -/
theorem forall_tag_docTable {q : String → Prop} :
    (∀ r ∈ (g.docTable b p).rows, q r.tag) ↔ ∀ t ∈ b.tables, q t.locale.tag := by
  simp only [docTable, List.forall_mem_map, Book.mem_tablesByTag]

end Generator

end Phrasebook.Dart
